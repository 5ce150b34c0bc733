import LeveledLog.Metered

/-!
# Messages

A message is written piece by piece.  A piece is a text, or a fault at which the writing fails; what was
written before a fault stays, and nothing after it is written.  Formatting a message counts as one use,
and so does evaluating the argument that it comes from.
-/

namespace LeveledLog

/-- A piece of a message: a text, or a point at which writing the message fails. -/
inductive Piece
  | text (content : String)
  | fault
  deriving DecidableEq

/-- A message: the pieces that it is written in. -/
abbrev Message := List Piece

namespace Message

/-- The text of a message up to its first fault. -/
def written : Message → String
  | .text content :: rest => content ++ written rest
  | .fault :: _ => ""
  | [] => ""

/-- Formats a message once. -/
def format (m : Message) : Metered String :=
  ⟨m.written, .formatting⟩

/-- A message as the argument of a log statement, which evaluates it where it is needed. -/
def argument (m : Message) : Metered Message :=
  ⟨m, .evaluation⟩

@[simp] theorem value_argument (m : Message) : m.argument.value = m := rfl

end Message

end LeveledLog
