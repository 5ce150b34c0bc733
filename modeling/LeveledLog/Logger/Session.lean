import LeveledLog.Logger.Basic

/-!
# Sessions of several loggers

A session runs a list of steps on a list of loggers.  Each step addresses one of them by its position and
either changes it or asks it for an answer; a step that addresses no logger changes nothing and has no answer.

* `step_of_getElem?_eq_some`: a step is what the logger that it addresses makes of its action;
* `step_of_getElem?_eq_none`: a step beyond the last logger has no effect.
-/

namespace LeveledLog

namespace Logger

/-! ### One logger -/

/-- What can be asked of a logger. -/
inductive Action
  | setThreshold (threshold : Level)
  | disableColor
  | enabled (level : Level)
  | environmentEntry
  | header (level : Level) (caller : Caller)
  | stream
  /-- To write a message into a new sink. -/
  | writeTo (level : Level) (caller : Caller) (message : Message) (capacity : Option Nat)

/-- What a logger answers. -/
inductive Answer
  | done
  | flag (value : Bool)
  | text (content : String)
  | stream (target : Stream)
  | delivery (sink : Metered Sink)

/-- The answer of a logger, and the state that it is in afterwards. -/
def perform (identity : Identity) (log : Logger) : Action → Answer × Logger
  | .setThreshold threshold => (.done, log.setThreshold threshold)
  | .disableColor => (.done, log.disableColor)
  | .enabled level => (.flag (log.enabled level), log)
  | .environmentEntry => (.text log.environmentEntry, log)
  | .header level caller => (.text (log.header identity level caller), log)
  | .stream => (.stream log.stream, log)
  | .writeTo level caller message capacity =>
    (.delivery (log.writeTo (.fresh capacity) identity level caller message), log)

end Logger

namespace Session

/-! ### Several loggers -/

/-- An action on the logger at a position. -/
structure Step where
  target : Nat
  action : Logger.Action

/-- The answer to a step, if it addresses a logger, and the loggers afterwards. -/
def step (identity : Identity) (loggers : List Logger) (s : Step) :
    Option Logger.Answer × List Logger :=
  match loggers[s.target]? with
  | some log =>
    let (answer, log') := log.perform identity s.action
    (some answer, loggers.set s.target log')
  | none => (none, loggers)

/-- The answer to each step of a session, with the loggers as they are after it. -/
def run (identity : Identity) : List Logger → List Step → List (Option Logger.Answer × List Logger)
  | _, [] => []
  | loggers, s :: rest =>
    let entry := step identity loggers s
    entry :: run identity entry.2 rest

theorem step_of_getElem?_eq_some {loggers : List Logger} {s : Step} {log : Logger}
    (h : loggers[s.target]? = some log) (identity : Identity) :
    step identity loggers s =
      (some (log.perform identity s.action).1,
        loggers.set s.target (log.perform identity s.action).2) := by
  rw [step, h]

theorem step_of_getElem?_eq_none {loggers : List Logger} {s : Step}
    (h : loggers[s.target]? = none) (identity : Identity) :
    step identity loggers s = (none, loggers) := by
  rw [step, h]

end Session

end LeveledLog
