/-!
# Process identities

A line for debugging tells which process wrote it: the effective user and the process number, in brackets.

* `length_text`: the field is as long as the two numerals and seven characters around them.
-/

namespace LeveledLog

/-- Who writes a line: an effective user and a process, by number. -/
structure Identity where
  user : UInt32
  process : UInt32
  deriving DecidableEq

/-- The field that tells an identity. -/
def Identity.text (i : Identity) : String :=
  "[U=" ++ i.user.toNat.repr ++ ",P=" ++ i.process.toNat.repr ++ "]"

theorem Identity.length_text (i : Identity) :
    i.text.length = 7 + i.user.toNat.repr.length + i.process.toNat.repr.length := by
  have hopen : "[U=".length = 3 := rfl
  have hmid : ",P=".length = 3 := rfl
  have hclose : "]".length = 1 := rfl
  simp only [text, String.length_append, hopen, hmid, hclose]
  omega

end LeveledLog
