/-!
# ASCII letter case

Names are compared without regard to the case of ASCII letters: a text is brought to lower case, in which `A`
to `Z` become `a` to `z` and every other character stays.

* `toList_lower`: lower case is taken character by character.
-/

namespace LeveledLog.Text

/-- A text with its ASCII capitals in lower case. -/
def lower (s : String) : String :=
  String.ofList (s.toList.map Char.toLower)

@[simp] theorem toList_lower (s : String) : (lower s).toList = s.toList.map Char.toLower := by
  rw [lower, String.toList_ofList]

end LeveledLog.Text
