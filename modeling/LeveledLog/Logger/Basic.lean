import LeveledLog.Environment
import LeveledLog.Header.Layout
import LeveledLog.Message
import LeveledLog.Sink
import LeveledLog.Stream

/-!
# Loggers

A logger has a threshold and may color its labels.  A message whose level is at most the threshold becomes one
line: the header, what the message writes, and a newline.  The line is put together first and handed over at
once; a message above the threshold is not even formatted.

* `line?_of_enabled`, `line?_of_not_enabled`: there is a line exactly when the level passes, and which;
* `usage_line?`: a message is formatted once if its level passes, and else not;
* `stream_eq_stderr_iff`: other diagnostics reach standard error exactly when fatal messages do.
-/

namespace LeveledLog

/-- The state of a logger: its threshold, and whether it colors labels. -/
structure Logger where
  threshold : Level
  colored : Bool
  deriving DecidableEq

namespace Logger

/-! ### Making and changing a logger -/

/-- A new logger, with colors on. -/
def ofThreshold (threshold : Level) : Logger :=
  ⟨threshold, true⟩

instance : Inhabited Logger := ⟨ofThreshold Environment.defaultThreshold⟩

/-- A new logger with the threshold that an environment variable stands for. -/
def ofEnvironment (value : Environment.Value) : Logger :=
  ofThreshold (Environment.thresholdOf value)

/-- The logger with another threshold. -/
def setThreshold (log : Logger) (threshold : Level) : Logger :=
  { log with threshold }

/-- The logger with colors off; nothing turns them on again. -/
def disableColor (log : Logger) : Logger :=
  { log with colored := false }

/-! ### Asking a logger -/

/-- Whether a message of a level passes the threshold. -/
def enabled (log : Logger) (level : Level) : Bool :=
  decide (level ≤ log.threshold)

/-- The entry that hands the threshold to a child process. -/
def environmentEntry (log : Logger) : String :=
  Environment.entry log.threshold

/-- The header of a line of a level, passing or not. -/
def header (log : Logger) (identity : Identity) (level : Level) (caller : Caller) : String :=
  Header.render level log.threshold log.colored caller identity

/-- The stream for other diagnostics: dropped if not even fatal messages pass. -/
def stream (log : Logger) : Stream :=
  if log.threshold < Severity.fatal.level then .discard else .stderr

/-! ### Writing a line -/

/-- The line of a message, if its level passes. -/
def line? (log : Logger) (identity : Identity) (level : Level) (caller : Caller)
    (message : Message) : Metered (Option String) :=
  if log.enabled level then do
    let text ← message.format
    return some (log.header identity level caller ++ text ++ "\n")
  else
    return none

/-- Hands the line of a message to a sink; what the sink refuses is lost without an error. -/
def writeTo (log : Logger) (sink : Sink) (identity : Identity) (level : Level) (caller : Caller)
    (message : Message) : Metered Sink := do
  match ← log.line? identity level caller message with
  | some line => return sink.writeAll (Text.utf8 line)
  | none => return sink

/-- The bytes that a message brings to standard error. -/
def emit (log : Logger) (identity : Identity) (level : Level) (caller : Caller)
    (message : Message) : Metered Bytes := do
  match ← log.line? identity level caller message with
  | some line => return Text.utf8 line
  | none => return []

/-! ### Laws -/

theorem enabled_iff {log : Logger} {level : Level} :
    log.enabled level = true ↔ level ≤ log.threshold := by
  simp [enabled]

theorem line?_of_enabled {log : Logger} {level : Level} (h : log.enabled level = true)
    (identity : Identity) (caller : Caller) (message : Message) :
    log.line? identity level caller message =
      ⟨some (log.header identity level caller ++ message.written ++ "\n"), .formatting⟩ := by
  rw [line?, if_pos h]
  rfl

theorem line?_of_not_enabled {log : Logger} {level : Level} (h : log.enabled level = false)
    (identity : Identity) (caller : Caller) (message : Message) :
    log.line? identity level caller message = ⟨none, 0⟩ := by
  rw [line?, h]
  rfl

theorem usage_line? (log : Logger) (identity : Identity) (level : Level) (caller : Caller)
    (message : Message) :
    (log.line? identity level caller message).usage =
      if log.enabled level then .formatting else 0 := by
  cases h : log.enabled level with
  | true => rw [line?_of_enabled h, if_pos rfl]
  | false =>
    rw [line?_of_not_enabled h]
    rfl

theorem usage_writeTo (log : Logger) (sink : Sink) (identity : Identity) (level : Level)
    (caller : Caller) (message : Message) :
    (log.writeTo sink identity level caller message).usage =
      (log.line? identity level caller message).usage := by
  rw [writeTo, Metered.usage_bind]
  split <;> exact Usage.add_zero _

theorem value_emit (log : Logger) (identity : Identity) (level : Level) (caller : Caller)
    (message : Message) :
    (log.emit identity level caller message).value =
      match (log.line? identity level caller message).value with
      | some line => Text.utf8 line
      | none => [] := by
  rw [emit, Metered.value_bind]
  split <;> rfl

theorem usage_emit (log : Logger) (identity : Identity) (level : Level) (caller : Caller)
    (message : Message) :
    (log.emit identity level caller message).usage =
      (log.line? identity level caller message).usage := by
  rw [emit, Metered.usage_bind]
  split <;> exact Usage.add_zero _

/-- Other diagnostics reach standard error exactly when fatal messages do. -/
theorem stream_eq_stderr_iff {log : Logger} :
    log.stream = .stderr ↔ log.enabled Severity.fatal.level = true := by
  rw [enabled_iff, stream]
  by_cases h : log.threshold < Severity.fatal.level
  · rw [if_pos h]
    exact ⟨fun e => (nomatch e),
      fun hle => absurd (Level.le_iff.1 hle) (Int.not_le.2 (Level.lt_iff.1 h))⟩
  · rw [if_neg h]
    exact ⟨fun _ => Level.le_iff.2 (Int.not_lt.1 (mt Level.lt_iff.2 h)), fun _ => rfl⟩

end Logger

end LeveledLog
