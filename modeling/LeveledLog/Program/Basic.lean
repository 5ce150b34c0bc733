import LeveledLog.Logger.Basic

/-!
# Running programs

All code of a program shares one logger.  It is made from the environment when it is first needed, and what it
writes is added to the program's standard error.  A log statement asks the logger before it evaluates its
argument, and finds its caller on the path of its marker.

* `stderr_emit`: an emission adds its line to standard error and nothing else;
* `request_eq`: a request for other diagnostics succeeds, and adds what its stream lets through;
* `log_of_enabled`, `log_of_not_enabled`: a log statement is an emission, or nothing at all;
* `value_log`, `usage_log`: what it leaves, and what it costs.
-/

namespace LeveledLog

/-- The state of a running program: its process and environment, the shared logger once that is made, and what
was written to standard error so far. -/
structure Program where
  identity : Identity
  environment : Environment.Value
  made : Option Logger
  stderr : Bytes

namespace Program

/-! ### The shared logger -/

/-- A program before its first step. -/
def start (identity : Identity) (environment : Environment.Value) : Program :=
  ⟨identity, environment, none, []⟩

/-- The shared logger, made from the environment unless it is there already. -/
def logger (p : Program) : Logger :=
  p.made.getD (.ofEnvironment p.environment)

/-- The program with its logger changed. -/
def update (p : Program) (change : Logger → Logger) : Program :=
  { p with made := some (change p.logger) }

/-- The program with its logger made. -/
def touch (p : Program) : Program :=
  p.update id

/-- The program with some bytes added to its standard error. -/
def append (p : Program) (bs : Bytes) : Program :=
  { p with stderr := p.stderr ++ bs }

@[simp] theorem logger_start (identity : Identity) (environment : Environment.Value) :
    (start identity environment).logger = .ofEnvironment environment := rfl

@[simp] theorem stderr_touch (p : Program) : p.touch.stderr = p.stderr := rfl

@[simp] theorem stderr_append (p : Program) (bs : Bytes) :
    (p.append bs).stderr = p.stderr ++ bs := rfl

/-! ### Writing -/

/-- Writes the line of a message to standard error. -/
def emit (p : Program) (level : Level) (caller : Caller) (message : Message) : Metered Program := do
  let bytes ← p.logger.emit p.identity level caller message
  return p.touch.append bytes

/-- Carries out a log statement: nothing more than asking the logger if the level does not pass. -/
def log (p : Program) (level : Level) (path : String) (argument : Metered Message) :
    Metered Program :=
  if p.logger.enabled level then do
    let message ← argument
    p.touch.emit level (.ofMarkerPath path) message
  else
    return p.touch

/-- Hands a request to the stream for other diagnostics; the device of standard error takes everything. -/
def request (p : Program) (r : Request) : Response × Program :=
  let result := p.logger.stream.handle ⟨none, p.stderr, 0⟩ r
  (result.1, { p.touch with stderr := result.2.taken })

theorem value_emit (p : Program) (level : Level) (caller : Caller) (message : Message) :
    (p.emit level caller message).value =
      p.touch.append (p.logger.emit p.identity level caller message).value := rfl

theorem logger_emit (p : Program) (level : Level) (caller : Caller) (message : Message) :
    (p.emit level caller message).value.logger = p.logger := rfl

theorem stderr_emit (p : Program) (level : Level) (caller : Caller) (message : Message) :
    (p.emit level caller message).value.stderr =
      p.stderr ++ (p.logger.emit p.identity level caller message).value := rfl

theorem usage_emit (p : Program) (level : Level) (caller : Caller) (message : Message) :
    (p.emit level caller message).usage =
      (p.logger.emit p.identity level caller message).usage :=
  Usage.add_zero _

theorem log_of_enabled {p : Program} {level : Level} (h : p.logger.enabled level = true)
    (path : String) (argument : Metered Message) :
    p.log level path argument =
      argument >>= fun message => p.touch.emit level (.ofMarkerPath path) message := by
  rw [log, if_pos h]

theorem log_of_not_enabled {p : Program} {level : Level} (h : p.logger.enabled level = false)
    (path : String) (argument : Metered Message) : p.log level path argument = ⟨p.touch, 0⟩ := by
  rw [log, h]
  rfl

/-- A request succeeds and adds to standard error what the stream lets through. -/
theorem request_eq (p : Program) (r : Request) :
    p.request r = (r.success, p.touch.append (p.logger.stream.reaches r.bytes)) := by
  obtain ⟨calls, hdevice⟩ := p.logger.stream.handle_unlimited r p.stderr 0
  rw [request, hdevice]
  rfl

/-- A log statement leaves a program as an emission with the same message does. -/
theorem value_log (p : Program) (level : Level) (path : String) (argument : Metered Message) :
    (p.log level path argument).value =
      (p.emit level (.ofMarkerPath path) argument.value).value := by
  cases h : p.logger.enabled level with
  | true => rw [log_of_enabled h]; rfl
  | false =>
    have hnothing : (p.logger.emit p.identity level (.ofMarkerPath path) argument.value).value = [] := by
      rw [Logger.value_emit, Logger.line?_of_not_enabled h]
    rw [log_of_not_enabled h, value_emit, hnothing, append, List.append_nil]

/-- A log statement evaluates its argument, and formats the message, only if the level passes. -/
theorem usage_log (p : Program) (level : Level) (path : String) (argument : Metered Message) :
    (p.log level path argument).usage =
      if p.logger.enabled level then argument.usage + .formatting else 0 := by
  cases h : p.logger.enabled level with
  | true =>
    have hformat : (p.logger.emit p.identity level (.ofMarkerPath path) argument.value).usage =
        .formatting := by
      rw [Logger.usage_emit, Logger.usage_line?, if_pos h]
    rw [log_of_enabled h, Metered.usage_bind, usage_emit, if_pos rfl, ← hformat]
    rfl
  | false => rw [log_of_not_enabled h, if_neg Bool.false_ne_true]

end Program

end LeveledLog
