import LeveledLog.Caller.MarkerPath

/-!
# Callers

The caller of a log statement is the function that issued it, known by name.  A caller is shown as its name
and an empty argument list.

* `ofMarkerPath_name`: the name found on a marker path, or the mark of an unknown caller if there is none.
-/

namespace LeveledLog

/-- The function that issued a log statement. -/
structure Caller where
  name : String
  deriving DecidableEq

namespace Caller

/-- The caller whose name is not known. -/
def unknown : Caller :=
  ⟨"???"⟩

/-- Without further information a caller is unknown. -/
instance : Inhabited Caller := ⟨unknown⟩

/-- The function that a marker path leads to, unknown if the path has no name. -/
def ofMarkerPath (path : String) : Caller :=
  let name := MarkerPath.functionName path.toList
  if name = [] then unknown else ⟨String.ofList name⟩

/-- The text that stands for a caller on a line. -/
def display (c : Caller) : String :=
  c.name ++ "()"

theorem ofMarkerPath_name (path : String) :
    (ofMarkerPath path).name.toList =
      if MarkerPath.functionName path.toList = [] then unknown.name.toList
      else MarkerPath.functionName path.toList := by
  unfold ofMarkerPath
  dsimp only
  split <;> simp

end Caller

end LeveledLog
