import LeveledLog.Caller.Basic
import LeveledLog.Header.Escape
import LeveledLog.Header.Identity
import LeveledLog.Text.Column

/-!
# Headers

Every line starts with a header.  Its layout depends on the level of the message and on the threshold.

* `unknown`: the label's place holds a fixed mark in alert colors, whether colors are on or not;
* `standard`: the label and a colon fill a column, and a space follows;
* `debug`: three columns for the label, the process identity and the caller, with nothing between them.

The color codes around a label are outside its column, so they do not move what follows.
-/

namespace LeveledLog

/-! ### Choosing a layout -/

/-- How the header of a line is laid out. -/
inductive Layout
  | unknown
  | standard (label : String)
  | debug
  deriving DecidableEq

/-- The layout for a level under a threshold.  A level without a name below debug is unknown; apart from that
a threshold of debug or more asks for the debug layout, and under a lower one a level without a name is
unknown too. -/
def Layout.select (level threshold : Level) : Layout :=
  if level.isNamed = false ∧ level < Severity.debug.level then .unknown
  else if Severity.debug.level ≤ threshold then .debug
  else match level.label? with
    | some label => .standard label
    | none => .unknown

namespace Header

/-! ### Columns -/

/-- The width of the label's column. -/
def labelWidth : Nat := 8

/-- The width of the identity's column. -/
def identityWidth : Nat := 19

/-- The width of the caller's column. -/
def callerWidth : Nat := 30

/-! ### Coloring -/

/-- A text in the color of an escape code, if colors are on. -/
def paint (colored : Bool) (e : Escape) (text : String) : String :=
  if colored then e.code ++ text ++ Escape.reset.code else text

theorem paint_false (e : Escape) (text : String) : paint false e text = text := rfl

theorem paint_true (e : Escape) (text : String) :
    paint true e text = e.code ++ text ++ Escape.reset.code := rfl

/-! ### The three layouts -/

/-- The header of a level that has no name to show; it is in alert colors always. -/
def unknown : String :=
  paint true .alert (Text.pad (Level.unknownLabel ++ ":") labelWidth) ++ " "

/-- The header of a level with a label outside debug mode. -/
def standard (colored : Bool) (level : Level) (label : String) : String :=
  paint colored level.escape (Text.pad (label ++ ":") labelWidth) ++ " "

/-- The header in debug mode. -/
def debug (colored : Bool) (level : Level) (caller : Caller) (identity : Identity) : String :=
  paint colored level.escape (Text.pad level.display labelWidth) ++
    Text.pad identity.text identityWidth ++ Text.pad caller.display callerWidth

/-- The header of a message of a level under a threshold, written by a caller in a process. -/
def render (level threshold : Level) (colored : Bool) (caller : Caller) (identity : Identity) :
    String :=
  match Layout.select level threshold with
  | .unknown => unknown
  | .standard label => standard colored level label
  | .debug => debug colored level caller identity

end Header

end LeveledLog
