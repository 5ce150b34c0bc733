import LeveledLog.Level.Basic

/-!
# Escape codes

On a terminal a label is colored by an escape code in front of it and another one behind it.  The color
follows the severity; a level above the named ones has the code that resets colors, as debug has.

* `Level.escape_level`: the color of a severity's level is the severity's.
-/

namespace LeveledLog

/-- An escape code that changes how the following text is shown. -/
inductive Escape
  | red
  | yellow
  | blue
  /-- Back to the plain look. -/
  | reset
  /-- Bold red, for what is not known. -/
  | alert
  deriving DecidableEq

/-- The characters of an escape code. -/
def Escape.code : Escape → String
  | .red => "\x1b[31m"
  | .yellow => "\x1b[33m"
  | .blue => "\x1b[34m"
  | .reset => "\x1b[0m"
  | .alert => "\x1b[1;31m"

/-- The color of a severity's label. -/
def Severity.escape : Severity → Escape
  | .fatal | .error => .red
  | .warning => .yellow
  | .info | .verbose | .verbose2 | .verbose3 => .blue
  | .debug => .reset

/-- The color of a level's label: its severity's, or the plain look. -/
def Level.escape (l : Level) : Escape :=
  match l.severity? with
  | some s => s.escape
  | none => .reset

@[simp] theorem Level.escape_level (s : Severity) : s.level.escape = s.escape := by
  simp [escape, severity?_level]

end LeveledLog
