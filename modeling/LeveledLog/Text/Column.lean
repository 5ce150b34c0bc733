/-!
# Columns

A column is a text filled up with spaces to a count of characters.  A text that is already as long is kept
whole: a column never cuts.

* `toList_pad`: a column is the text and then only spaces;
* `length_pad`: its length is the larger of the text's length and the width.
-/

namespace LeveledLog.Text

/-- A text followed by the spaces it lacks to fill `width` characters. -/
def pad (s : String) (width : Nat) : String :=
  s.pushn ' ' (width - s.length)

theorem toList_pad (s : String) (width : Nat) :
    (pad s width).toList = s.toList ++ List.replicate (width - s.length) ' ' := by
  rw [pad, String.pushn_eq_repeat_push]
  generalize width - s.length = k
  induction k with
  | zero => simp [Nat.repeat]
  | succ k ih => rw [Nat.repeat, String.toList_push, ih, List.append_assoc, List.replicate_succ']

theorem length_pad (s : String) (width : Nat) : (pad s width).length = max s.length width := by
  rw [pad, String.length_pushn]
  omega

end LeveledLog.Text
