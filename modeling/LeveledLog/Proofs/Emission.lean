import LeveledLog.Logger.Session

/-!
# What an emission brings to a sink

A sink without a limit gets the whole line of a message in one call, or no call at all.  The line is told here
byte by byte: the header, the pieces of the message that stand before its first fault, and a newline.

* `Message.utf8_written`: the bytes that a message writes are those of its pieces before the first fault;
* `Logger.value_emit_eq_nil_iff`, `Logger.value_emit_of_le`: what a message brings to standard error;
* `Emission.bytes`: the same for what is emitted as a whole;
* `Logger.exists_value_writeTo_unlimited`: such a sink gets what standard error would get;
* `Logger.writeTo_unlimited`: what a message brings to such a sink, and how often it is formatted.
-/

namespace LeveledLog

/-! ### The bytes of a message -/

/-- The bytes that a piece of a message writes. -/
def Piece.bytes : Piece → Bytes
  | .text content => Text.utf8 content
  | .fault => []

namespace Message

/-- The pieces of a message that stand before its first fault. -/
def beforeFault (m : Message) : List Piece :=
  m.takeWhile fun piece => decide (piece ≠ .fault)

theorem utf8_written (m : Message) : Text.utf8 m.written = m.beforeFault.flatMap Piece.bytes := by
  induction m with
  | nil => rfl
  | cons piece rest ih =>
    cases piece with
    | text content =>
      have htake : beforeFault (.text content :: rest) = .text content :: beforeFault rest := by
        simp [beforeFault]
      rw [htake, List.flatMap_cons, ← ih]
      exact Text.utf8_append content (written rest)
    | fault => rfl

end Message

/-! ### The line of a message -/

namespace Logger

/-- The bytes of a message's line: the header, what is written of the message, and a newline. -/
def lineBytes (log : Logger) (identity : Identity) (level : Level) (caller : Caller)
    (message : Message) : Bytes :=
  Text.utf8 (log.header identity level caller) ++ message.beforeFault.flatMap Piece.bytes ++
    Text.utf8 "\n"

theorem lineBytes_ne_nil (log : Logger) (identity : Identity) (level : Level) (caller : Caller)
    (message : Message) : log.lineBytes identity level caller message ≠ [] := by
  intro h
  have hlast : Text.utf8 "\n" = [] := (List.append_eq_nil_iff.1 h).2
  exact absurd hlast (by decide)

/-- The line that is put together is made of those bytes. -/
theorem utf8_line (log : Logger) (identity : Identity) (level : Level) (caller : Caller)
    (message : Message) :
    Text.utf8 (log.header identity level caller ++ message.written ++ "\n") =
      log.lineBytes identity level caller message := by
  rw [Text.utf8_append, Text.utf8_append, Message.utf8_written, lineBytes]

theorem writeTo_of_enabled {log : Logger} {level : Level} (h : log.enabled level = true)
    (sink : Sink) (identity : Identity) (caller : Caller) (message : Message) :
    log.writeTo sink identity level caller message =
      ⟨sink.writeAll (log.lineBytes identity level caller message), .formatting⟩ := by
  rw [writeTo, line?_of_enabled h, ← utf8_line]
  rfl

theorem writeTo_of_not_enabled {log : Logger} {level : Level} (h : log.enabled level = false)
    (sink : Sink) (identity : Identity) (caller : Caller) (message : Message) :
    log.writeTo sink identity level caller message = ⟨sink, 0⟩ := by
  rw [writeTo, line?_of_not_enabled h]
  rfl

theorem emit_of_enabled {log : Logger} {level : Level} (h : log.enabled level = true)
    (identity : Identity) (caller : Caller) (message : Message) :
    log.emit identity level caller message =
      ⟨log.lineBytes identity level caller message, .formatting⟩ := by
  rw [emit, line?_of_enabled h, ← utf8_line]
  rfl

theorem emit_of_not_enabled {log : Logger} {level : Level} (h : log.enabled level = false)
    (identity : Identity) (caller : Caller) (message : Message) :
    log.emit identity level caller message = ⟨[], 0⟩ := by
  rw [emit, line?_of_not_enabled h]
  rfl

/-- A message brings bytes to standard error exactly if its level passes. -/
theorem value_emit_eq_nil_iff {log : Logger} {identity : Identity} {level : Level} {caller : Caller}
    {message : Message} :
    (log.emit identity level caller message).value = [] ↔ ¬level ≤ log.threshold := by
  by_cases h : level ≤ log.threshold
  · rw [emit_of_enabled (enabled_iff.2 h)]
    exact iff_of_false (lineBytes_ne_nil log identity level caller message) (not_not_intro h)
  · rw [emit_of_not_enabled (decide_eq_false h)]
    exact iff_of_true rfl h

/-- These bytes are its line, as a text. -/
theorem value_emit_of_le {log : Logger} {level : Level} (h : level ≤ log.threshold)
    (identity : Identity) (caller : Caller) (message : Message) :
    (log.emit identity level caller message).value =
      Text.utf8 (log.header identity level caller ++ message.written ++ "\n") := by
  rw [emit_of_enabled (enabled_iff.2 h), utf8_line]

/-- Loggers that give a message the same header write the same of it, if it passes both or none. -/
theorem value_emit_eq_of_header_eq {log log' : Logger} {identity : Identity} {level : Level}
    {caller : Caller} (hpass : level ≤ log.threshold ↔ level ≤ log'.threshold)
    (hheader : log.header identity level caller = log'.header identity level caller)
    (message : Message) :
    (log.emit identity level caller message).value =
      (log'.emit identity level caller message).value := by
  by_cases h : level ≤ log.threshold
  · rw [value_emit_of_le h, value_emit_of_le (hpass.1 h), hheader]
  · rw [value_emit_eq_nil_iff.2 h, value_emit_eq_nil_iff.2 (mt hpass.2 h)]

end Logger

/-! ### Emissions -/

/-- What is emitted: a message of a level, from a caller. -/
structure Emission where
  level : Level
  caller : Caller
  message : Message

/-- The bytes that a logger writes of an emission. -/
def Emission.bytes (e : Emission) (log : Logger) (identity : Identity) : Bytes :=
  (log.emit identity e.level e.caller e.message).value

/-! ### Sinks without a limit -/

namespace Logger

/-- A sink without a limit stays one, and gets of a message what standard error would get. -/
theorem exists_value_writeTo_unlimited (log : Logger) (identity : Identity) (level : Level)
    (caller : Caller) (message : Message) (taken : Bytes) (calls : Nat) :
    ∃ calls', (log.writeTo ⟨none, taken, calls⟩ identity level caller message).value =
      ⟨none, taken ++ (log.emit identity level caller message).value, calls'⟩ := by
  cases h : log.enabled level with
  | true =>
    have hline : log.lineBytes identity level caller message ≠ [] :=
      lineBytes_ne_nil log identity level caller message
    refine ⟨calls + 1, ?_⟩
    rw [writeTo_of_enabled h, Sink.writeAll_unlimited_of_ne_nil taken calls hline, emit_of_enabled h]
  | false =>
    refine ⟨calls, ?_⟩
    rw [writeTo_of_not_enabled h, emit_of_not_enabled h, List.append_nil]

theorem taken_writeTo_unlimited (log : Logger) (identity : Identity) (level : Level)
    (caller : Caller) (message : Message) (taken : Bytes) (calls : Nat) :
    (log.writeTo ⟨none, taken, calls⟩ identity level caller message).value.taken =
      taken ++ (log.emit identity level caller message).value := by
  obtain ⟨calls', hsink⟩ :=
    exists_value_writeTo_unlimited log identity level caller message taken calls
  rw [hsink]

/-- Both ways format a message equally often. -/
theorem usage_writeTo_eq_usage_emit (log : Logger) (sink : Sink) (identity : Identity)
    (level : Level) (caller : Caller) (message : Message) :
    (log.writeTo sink identity level caller message).usage =
      (log.emit identity level caller message).usage := by
  rw [usage_writeTo, usage_emit]

end Logger

/-- A message that passes the threshold is formatted once and reaches a sink without a limit in one call, as the
header of its level, its pieces before the first fault, and a newline.  One that does not pass is not formatted and
leaves the sink alone.  The logger stays as it is. -/
theorem Logger.writeTo_unlimited (log : Logger) (identity : Identity) (level : Level) (caller : Caller)
    (message : Message) (taken : Bytes) (calls : Nat) :
    log.writeTo ⟨none, taken, calls⟩ identity level caller message =
        (if level ≤ log.threshold then
          ⟨⟨none, taken ++ (Text.utf8 (log.header identity level caller) ++
              message.beforeFault.flatMap Piece.bytes ++ Text.utf8 "\n"), calls + 1⟩, .formatting⟩
        else ⟨⟨none, taken, calls⟩, 0⟩) ∧
      ((log.writeTo ⟨none, taken, calls⟩ identity level caller message).value.taken ≠ taken ↔
        log.enabled level = true) ∧
      log.perform identity (.writeTo level caller message none) =
        (.delivery (log.writeTo (.fresh none) identity level caller message), log) := by
  by_cases h : level ≤ log.threshold
  · have hon : log.enabled level = true := enabled_iff.2 h
    have hline : log.lineBytes identity level caller message ≠ [] :=
      lineBytes_ne_nil log identity level caller message
    have hwrite := writeTo_of_enabled hon ⟨none, taken, calls⟩ identity caller message
    rw [Sink.writeAll_unlimited_of_ne_nil taken calls hline] at hwrite
    refine ⟨?_, ?_, rfl⟩
    · rw [hwrite, if_pos h, lineBytes]
    · rw [hwrite]
      show taken ++ log.lineBytes identity level caller message ≠ taken ↔ log.enabled level = true
      have hne : taken ++ log.lineBytes identity level caller message ≠ taken := fun e =>
        hline (List.append_right_eq_self.1 e)
      exact iff_of_true hne hon
  · have hoff : log.enabled level = false := decide_eq_false h
    have hwrite := writeTo_of_not_enabled hoff ⟨none, taken, calls⟩ identity caller message
    refine ⟨?_, ?_, rfl⟩
    · rw [hwrite, if_neg h]
    · rw [hwrite]
      exact iff_of_false (fun hne => hne rfl) (by rw [hoff]; exact Bool.false_ne_true)

end LeveledLog
