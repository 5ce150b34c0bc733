import LeveledLog.Program.Basic

/-!
# Runs of a program

A program carries out a list of steps in turn.  There is a log statement for each severity, known by its name,
and one for any level; the one for fatal messages ends the program after its line, whether or not the line was
written.  Every other step is answered, and a program that gets to the end of its list exits normally.

* `exists_exited_iff`: only the log statement for fatal messages ends a program;
* `run_cons_of_exited`, `run_cons_of_answered`: a run stops at the first step that ends it;
* `stderr_perform`: a step adds to standard error and takes nothing back.
-/

namespace LeveledLog.Program

/-! ### Steps -/

/-- The log statements: one for each severity, and one for any level. -/
inductive Statement
  | ofSeverity (severity : Severity)
  | ofLevel (level : Level)

namespace Statement

/-- The log statements for severities, by their names. -/
def named : List (String × Statement) :=
  [("fatalf", .ofSeverity .fatal), ("errorf", .ofSeverity .error), ("warningf", .ofSeverity .warning),
    ("infof", .ofSeverity .info), ("verbosef", .ofSeverity .verbose),
    ("verbose2f", .ofSeverity .verbose2), ("verbose3f", .ofSeverity .verbose3),
    ("debugf", .ofSeverity .debug)]

/-- The log statement with a given name. -/
def ofName? (name : String) : Option Statement :=
  (named.find? fun entry => decide (entry.1 = name)).map (·.2)

/-- The level that a log statement logs at. -/
def level : Statement → Level
  | .ofSeverity severity => severity.level
  | .ofLevel level => level

/-- Whether a log statement ends the program. -/
def ends : Statement → Bool
  | .ofSeverity severity => decide (severity = .fatal)
  | .ofLevel _ => false

end Statement

/-- One step of a program. -/
inductive Step
  | threshold
  | setThreshold (threshold : Level)
  | colored
  | disableColor
  | enabled (level : Level)
  | environmentEntry
  | header (level : Level) (caller : Caller)
  | stream
  | request (r : Request)
  | emit (level : Level) (caller : Caller) (message : Message)
  /-- A log statement, with the path of its marker. -/
  | log (statement : Statement) (path : String) (message : Message)

/-- Whether a step ends the program. -/
def Step.ends : Step → Bool
  | .log statement _ _ => statement.ends
  | _ => false

/-! ### One step -/

/-- What a program answers to a step that does not end it. -/
inductive Answer
  | done
  | threshold (level : Level)
  | flag (value : Bool)
  /-- Whether a level passes, asked twice. -/
  | passes (first second : Bool)
  | text (content : String)
  | stream (target : Stream)
  | response (result : Response)
  | usage (counts : Usage)

/-- How a step comes out. -/
inductive Outcome
  | answered (answer : Answer)
  | exited (status : UInt8)

/-- The status that a program exits with after a fatal message. -/
def fatalStatus : UInt8 := 255

/-- The status that a program exits with when it has carried out all its steps. -/
def normalStatus : UInt8 := 0

/-- How a step comes out, and the program afterwards. -/
def perform (p : Program) : Step → Outcome × Program
  | .threshold => (.answered (.threshold p.logger.threshold), p.touch)
  | .setThreshold threshold => (.answered .done, p.update (·.setThreshold threshold))
  | .colored => (.answered (.flag p.logger.colored), p.touch)
  | .disableColor => (.answered .done, p.update (·.disableColor))
  | .enabled level =>
    (.answered (.passes (p.logger.enabled level) (p.touch.logger.enabled level)), p.touch)
  | .environmentEntry => (.answered (.text p.logger.environmentEntry), p.touch)
  | .header level caller => (.answered (.text (p.logger.header p.identity level caller)), p.touch)
  | .stream => (.answered (.stream p.logger.stream), p.touch)
  | .request r =>
    let result := p.request r
    (.answered (.response result.1), result.2)
  | .emit level caller message =>
    let result := p.emit level caller message
    (.answered (.usage result.usage), result.value)
  | .log statement path message =>
    let result := p.log statement.level path message.argument
    (if statement.ends then .exited fatalStatus else .answered (.usage result.usage), result.value)

theorem exists_exited_iff {p : Program} {s : Step} {status : UInt8} :
    (p.perform s).1 = .exited status ↔ s.ends = true ∧ status = fatalStatus := by
  cases s with
  | log statement path message =>
    cases h : statement.ends <;> simp [perform, Step.ends, h, eq_comm]
  | _ => simp [perform, Step.ends]

/-- A step that does not end the program is answered. -/
theorem answered_of_not_ends {s : Step} (h : s.ends = false) (p : Program) :
    ∃ answer, (p.perform s).1 = .answered answer := by
  cases hout : (p.perform s).1 with
  | answered answer => exact ⟨answer, rfl⟩
  | exited status =>
    have hends : s.ends = true := (exists_exited_iff.1 hout).1
    exact absurd (h.symm.trans hends) Bool.false_ne_true

/-- The bytes that a step adds to standard error. -/
def added (p : Program) (s : Step) : Bytes :=
  (p.perform s).2.stderr.drop p.stderr.length

/-- Standard error after a step is what it was before, and then what the step adds. -/
theorem stderr_perform (p : Program) (s : Step) :
    (p.perform s).2.stderr = p.stderr ++ p.added s := by
  have key : ∃ bs : Bytes, (p.perform s).2.stderr = p.stderr ++ bs := by
    cases s with
    | request r =>
      refine ⟨p.logger.stream.reaches r.bytes, ?_⟩
      show (p.request r).2.stderr = _
      rw [request_eq, stderr_append, stderr_touch]
    | emit level caller message => exact ⟨_, stderr_emit p level caller message⟩
    | log statement path message =>
      refine ⟨(p.logger.emit p.identity statement.level (.ofMarkerPath path) message).value, ?_⟩
      show (p.log statement.level path message.argument).value.stderr = _
      rw [value_log, stderr_emit, Message.value_argument]
    | _ => exact ⟨[], (List.append_nil p.stderr).symm⟩
  obtain ⟨bs, hbs⟩ := key
  rw [added, hbs, List.drop_left]

/-! ### A whole run -/

/-- What is seen of a step: how it comes out, and what it adds to standard error. -/
structure Entry where
  outcome : Outcome
  added : Bytes

/-- What is seen of a run: an entry for each step that was carried out, the exit status, and the program as the
last step left it. -/
structure Record where
  entries : List Entry
  status : UInt8
  last : Program

/-- Carries out steps in turn, up to the first one that ends the program. -/
def run (p : Program) : List Step → Record
  | [] => ⟨[], normalStatus, p⟩
  | s :: rest =>
    let next := (p.perform s).2
    let entry : Entry := ⟨(p.perform s).1, p.added s⟩
    match (p.perform s).1 with
    | .exited status => ⟨[entry], status, next⟩
    | .answered _ =>
      let record := next.run rest
      { record with entries := entry :: record.entries }

theorem run_nil (p : Program) : p.run [] = ⟨[], normalStatus, p⟩ := rfl

theorem run_cons_of_exited {p : Program} {s : Step} {status : UInt8}
    (h : (p.perform s).1 = .exited status) (rest : List Step) :
    p.run (s :: rest) = ⟨[⟨.exited status, p.added s⟩], status, (p.perform s).2⟩ := by
  simp only [run, h]

theorem run_cons_of_answered {p : Program} {s : Step} {answer : Answer}
    (h : (p.perform s).1 = .answered answer) (rest : List Step) :
    p.run (s :: rest) =
      { (p.perform s).2.run rest with
        entries := ⟨.answered answer, p.added s⟩ :: ((p.perform s).2.run rest).entries } := by
  simp only [run, h]

end LeveledLog.Program
