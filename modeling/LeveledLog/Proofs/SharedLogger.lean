import LeveledLog.Proofs.LogStatements
import LeveledLog.Proofs.MarkerSites
import LeveledLog.Proofs.StepByStep

/-!
# The shared logger of a program

A program makes its logger at its first step and writes to standard error.  Beside it stands a logger of its own,
made from the same environment beforehand, that carries out one operation for each step and writes into a sink
without a limit.  The two cannot be told apart by answers, output or state, after any number of steps.

* `Logger.react`, `Logger.reactions`: the operations that steps stand for;
* `Program.program_perform`, `Program.outcome_perform`: a step is its operation on the shared logger;
* `Program.seen_eq_map_entry`, `Program.after_eq_foldl_reacted`: any number of steps are theirs;
* `Program.run_eq_isolated`: what a run shows and leaves, told by a logger of its own.
-/

namespace LeveledLog

/-! ### A logger of its own -/

/-- What a logger of its own makes of a step: an answer, some output, and the logger as it is then. -/
structure Reaction where
  answer : Program.Answer
  output : Bytes
  logger : Logger

/-- What would be seen of a step of a program with this answer and this output. -/
def Reaction.entry (r : Reaction) : Program.Entry :=
  ⟨.answered r.answer, r.output⟩

namespace Logger

/-- A message from where a marker leads to, written into a new sink without a limit.  The argument that it comes from is
evaluated as often as the message is formatted. -/
def reactToLog (identity : Identity) (log : Logger) (level : Level) (path : String)
    (message : Message) : Reaction :=
  let sink := log.writeTo (.fresh none) identity level (.ofMarkerPath path) message
  ⟨.usage ⟨sink.usage.formatted, sink.usage.formatted⟩, sink.value.taken, log⟩

/-- The operation on a logger that a step of a program stands for.  Messages are written and requests handed over to a
new sink without a limit, and a log statement is a message of its severity's level, or of the level it is given. -/
def react (identity : Identity) (log : Logger) : Program.Step → Reaction
  | .threshold => ⟨.threshold log.threshold, [], log⟩
  | .setThreshold threshold => ⟨.done, [], log.setThreshold threshold⟩
  | .colored => ⟨.flag log.colored, [], log⟩
  | .disableColor => ⟨.done, [], log.disableColor⟩
  | .enabled level => ⟨.passes (log.enabled level) (log.enabled level), [], log⟩
  | .environmentEntry => ⟨.text log.environmentEntry, [], log⟩
  | .header level caller => ⟨.text (log.header identity level caller), [], log⟩
  | .stream => ⟨.stream log.stream, [], log⟩
  | .request r =>
    let result := log.stream.handle (.fresh none) r
    ⟨.response result.1, result.2.taken, log⟩
  | .emit level caller message =>
    let sink := log.writeTo (.fresh none) identity level caller message
    ⟨.usage sink.usage, sink.value.taken, log⟩
  | .log (.ofSeverity severity) path message =>
    log.reactToLog identity severity.level path message
  | .log (.ofLevel level) path message => log.reactToLog identity level path message

/-- Whichever log statement it is, its own level counts. -/
theorem react_log (identity : Identity) (log : Logger) (statement : Program.Statement)
    (path : String) (message : Message) :
    log.react identity (.log statement path message) =
      log.reactToLog identity statement.level path message := by
  cases statement <;> rfl

theorem react_request (identity : Identity) (log : Logger) (r : Request) :
    log.react identity (.request r) =
      ⟨.response r.success, log.stream.reaches r.bytes, log⟩ := by
  obtain ⟨calls, hdevice⟩ := log.stream.handle_unlimited r [] 0
  rw [react, Sink.fresh, hdevice]
  rfl

/-- The operations for some steps, each on the logger that the one before left. -/
def reactions (identity : Identity) (log : Logger) : List Program.Step → List Reaction
  | [] => []
  | s :: rest => log.react identity s :: (log.react identity s).logger.reactions identity rest

theorem reactions_take (identity : Identity) (log : Logger) (steps : List Program.Step) (n : Nat) :
    log.reactions identity (steps.take n) = (log.reactions identity steps).take n := by
  induction steps generalizing log n with
  | nil => rw [List.take_nil, reactions, List.take_nil]
  | cons s rest ih =>
    cases n with
    | zero => rfl
    | succ n => rw [List.take_succ_cons, reactions, reactions, List.take_succ_cons, ih]

/-- A sink that gets a message alone has what standard error would get. -/
theorem taken_writeTo_fresh (log : Logger) (identity : Identity) (level : Level) (caller : Caller)
    (message : Message) :
    (log.writeTo (.fresh none) identity level caller message).value.taken =
      (log.emit identity level caller message).value :=
  taken_writeTo_unlimited log identity level caller message [] 0

end Logger

namespace Program

/-! ### One step -/

/-- The program once its logger has reacted. -/
def reacted (p : Program) (r : Reaction) : Program :=
  { p with made := some r.logger, stderr := p.stderr ++ r.output }

theorem update_eq_reacted (p : Program) (change : Logger → Logger) (answer : Answer) :
    p.update change = p.reacted ⟨answer, [], change p.logger⟩ := by
  rw [reacted, List.append_nil, update]

theorem value_emit_eq_reacted (p : Program) (level : Level) (caller : Caller) (message : Message)
    (answer : Answer) :
    (p.emit level caller message).value =
      p.reacted ⟨answer,
        (p.logger.writeTo (.fresh none) p.identity level caller message).value.taken, p.logger⟩ := by
  rw [value_emit, reacted, Logger.taken_writeTo_fresh]
  rfl

/-- An argument is evaluated for every formatting of the message, and for nothing else. -/
theorem usage_log_argument (p : Program) (level : Level) (path : String) (message : Message) :
    (p.log level path message.argument).usage =
      let sink := p.logger.writeTo (.fresh none) p.identity level (.ofMarkerPath path) message
      ⟨sink.usage.formatted, sink.usage.formatted⟩ := by
  simp only [usage_log, Logger.usage_writeTo, Logger.usage_line?]
  cases p.logger.enabled level <;> rfl

/-- A step leaves the program as the operation that it stands for would. -/
theorem program_perform (p : Program) (s : Step) :
    (p.perform s).2 = p.reacted (p.logger.react p.identity s) := by
  cases s with
  | setThreshold threshold => exact update_eq_reacted p (·.setThreshold threshold) .done
  | disableColor => exact update_eq_reacted p (·.disableColor) .done
  | request r =>
    show (p.request r).2 = _
    rw [request_eq, Logger.react_request]
    rfl
  | emit level caller message => exact value_emit_eq_reacted p level caller message _
  | log statement path message =>
    show (p.log statement.level path message.argument).value = _
    rw [value_log, Logger.react_log]
    exact value_emit_eq_reacted p statement.level (.ofMarkerPath path) message _
  | _ => exact update_eq_reacted p id _

/-- A step that does not end the program has the answer of the operation that it stands for. -/
theorem outcome_perform {s : Step} (h : s.ends = false) (p : Program) :
    (p.perform s).1 = .answered (p.logger.react p.identity s).answer := by
  cases s with
  | request r =>
    show Outcome.answered (.response (p.request r).1) = _
    rw [request_eq, Logger.react_request]
  | emit level caller message =>
    show Outcome.answered (.usage (p.emit level caller message).usage) = _
    rw [usage_emit, ← Logger.usage_writeTo_eq_usage_emit p.logger (.fresh none)]
    rfl
  | log statement path message =>
    have hstays : statement.ends = false := h
    show (if statement.ends then Outcome.exited fatalStatus else
      .answered (.usage (p.log statement.level path message.argument).usage)) = _
    rw [hstays, usage_log_argument, Logger.react_log]
    rfl
  | _ => rfl

theorem added_eq_output (p : Program) (s : Step) :
    p.added s = (p.logger.react p.identity s).output := by
  rw [added, program_perform]
  exact List.drop_left

/-- A step that emits a message adds what the logger writes of it. -/
theorem added_eq_bytes {s : Step} {e : Emission} (h : s.emission? = some e) (p : Program) :
    p.added s = e.bytes p.logger p.identity := by
  cases s with
  | emit level caller message =>
    rw [← Option.some.inj h, added_eq_output, Logger.react, Logger.taken_writeTo_fresh, Emission.bytes]
  | log statement path message =>
    rw [Step.emission?_log] at h
    rw [← Option.some.inj h, added_eq_output, Logger.react_log, Logger.reactToLog,
      Logger.taken_writeTo_fresh, Emission.bytes]
  | _ => nomatch h

theorem entry_eq_entry {s : Step} (h : s.ends = false) (p : Program) :
    p.entry s = (p.logger.react p.identity s).entry := by
  rw [entry, outcome_perform h, added_eq_output, Reaction.entry]

/-! ### All steps -/

theorem seen_eq_map_entry (p : Program) {steps : List Step} (h : ∀ s ∈ steps, s.ends = false) :
    p.seen steps = (p.logger.reactions p.identity steps).map Reaction.entry := by
  induction steps generalizing p with
  | nil => rfl
  | cons s rest ih =>
    obtain ⟨hs, hrest⟩ := List.forall_mem_cons.1 h
    rw [seen, ih _ hrest, entry_eq_entry hs, program_perform]
    rfl

theorem after_eq_foldl_reacted (p : Program) (steps : List Step) :
    p.after steps = (p.logger.reactions p.identity steps).foldl reacted p := by
  induction steps generalizing p with
  | nil => rfl
  | cons s rest ih =>
    rw [after_cons, ih, program_perform]
    rfl

/-- Of all reactions the last one counts for the logger, and all count for the output. -/
theorem foldl_reacted (p : Program) (rs : List Reaction) :
    rs.foldl reacted p =
      { p with
        made := (rs.getLast?.map Reaction.logger).or p.made
        stderr := p.stderr ++ rs.flatMap Reaction.output } := by
  induction rs generalizing p with
  | nil =>
    show p = { p with made := p.made, stderr := p.stderr ++ [] }
    rw [List.append_nil]
  | cons r rs ih =>
    rw [List.foldl_cons, ih, reacted, List.flatMap_cons, List.append_assoc, List.getLast?_cons]
    cases rs.getLast? <;> rfl

theorem foldl_reacted_start (identity : Identity) (value : Environment.Value) (rs : List Reaction) :
    rs.foldl reacted (start identity value) =
      ⟨identity, value, rs.getLast?.map Reaction.logger, rs.flatMap Reaction.output⟩ := by
  rw [foldl_reacted, start, Option.or_none, List.nil_append]

/-- A program shows and leaves, after any number of steps that do not end it, what a logger of its own does that was
made from the same environment: colors are on, and the first step makes no difference, whichever it is.  The output
of an emission is what any sink without a limit would get.  A log statement is the emission of the level it logs at from
the function that it stands in, and the names of log statements go with the ranks of those levels.  Standard error is
all output, in order. -/
theorem run_eq_isolated (identity : Identity) (value : Environment.Value) (steps : List Step)
    (h : ∀ s ∈ steps, s.ends = false) :
    let alone := (Logger.ofEnvironment value).reactions identity steps
    (Logger.ofEnvironment value).colored = true ∧
      (∀ n, (start identity value).run (steps.take n) =
        ⟨(alone.take n).map Reaction.entry, normalStatus,
          ⟨identity, value, (alone.take n).getLast?.map Reaction.logger,
            (alone.take n).flatMap Reaction.output⟩⟩) ∧
      ((start identity value).run steps).last.stderr =
        ((start identity value).run steps).entries.flatMap Entry.added ∧
      (∀ (p : Program) (level : Level) (caller : Caller) (message : Message) (taken : Bytes)
        (calls : Nat),
        (p.logger.writeTo ⟨none, taken, calls⟩ p.identity level caller message).value.taken =
          taken ++ p.added (.emit level caller message)) ∧
      (∀ (p : Program) (statement : Statement) (level : Level), statement.LogsAt level →
        ∀ (site : Site) (message : Message),
          (p.perform (.log statement site.path message)).2 =
            (p.perform (.emit level ⟨site.function⟩ message)).2) ∧
      ∀ (name : String) (rank : Int32), (name, rank) ∈ Statement.nameRanks ↔
        ∃ statement, Statement.ofName? name = some statement ∧ statement.LogsAt ⟨rank⟩ := by
  intro alone
  refine ⟨rfl, ?_, ?_, ?_, ?_, fun name rank => Statement.mem_nameRanks_iff⟩
  · intro n
    have hn : ∀ s ∈ steps.take n, s.ends = false := fun s hs => h s (List.mem_of_mem_take hs)
    rw [run_of_not_ends _ hn, seen_eq_map_entry _ hn, after_eq_foldl_reacted, foldl_reacted_start,
      ← Logger.reactions_take]
    rfl
  · rw [run_of_not_ends _ h]
    exact stderr_after _ steps
  · intro p level caller message taken calls
    rw [added_eq_output, Logger.taken_writeTo_unlimited, ← Logger.taken_writeTo_fresh]
    rfl
  · intro p statement level hlevel site message
    show (p.log statement.level site.path message.argument).value = _
    rw [value_log, Caller.ofMarkerPath_path, Statement.logsAt_iff.1 hlevel]
    rfl

/-- The first step logs from a closure, with a message that fails; diagnostics are dropped for a while.  Below, what a
log statement is known by its name for. -/
theorem run_eq_isolated_of_failing_message :
    (∀ s ∈ [Step.log (.ofSeverity .debug) "app::serve::\x7b\x7bclosure\x7d\x7d::__sylog_marker"
          [.text "up", .fault, .text "lost"],
        .disableColor, .setThreshold ⟨-5⟩, .request (.writeLine "quiet"), .setThreshold ⟨0⟩,
        .emit ⟨-2⟩ default [.text "low"]], s.ends = false) ∧
      (let last := ((start ⟨0, 83⟩ (some [0x20, 0x35])).run
        [.log (.ofSeverity .debug) "app::serve::\x7b\x7bclosure\x7d\x7d::__sylog_marker"
          [.text "up", .fault, .text "lost"],
        .disableColor, .setThreshold ⟨-5⟩, .request (.writeLine "quiet"), .setThreshold ⟨0⟩,
        .emit ⟨-2⟩ default [.text "low"]]).last
      last.made = some ⟨⟨0⟩, false⟩ ∧
        last.stderr = Text.utf8
          ("\x1b[0mDEBUG   \x1b[0m[U=0,P=83]         serve()                       up\n" ++
            "WARNING: low\n")) ∧
      ∃ statement, Statement.ofName? "errorf" = some statement ∧ statement.LogsAt ⟨-3⟩ ∧
        ∀ (p : Program) (site : Site) (message : Message),
          (p.perform (.log statement site.path message)).2 =
            (p.perform (.emit ⟨-3⟩ ⟨site.function⟩ message)).2 := by
  have hstays : ∀ s ∈ [Step.log (.ofSeverity .debug)
        "app::serve::\x7b\x7bclosure\x7d\x7d::__sylog_marker" [.text "up", .fault, .text "lost"],
      .disableColor, .setThreshold ⟨-5⟩, .request (.writeLine "quiet"), .setThreshold ⟨0⟩,
      .emit ⟨-2⟩ default [.text "low"]], s.ends = false := by decide
  obtain ⟨-, hrun, -, -, hlogged, hnames⟩ := run_eq_isolated ⟨0, 83⟩ (some [0x20, 0x35]) _ hstays
  obtain ⟨statement, hname, hlevel⟩ := (hnames "errorf" (-3)).1 (by decide)
  refine ⟨hstays, ⟨(congrArg (·.last.made) (hrun 6)).trans ?_,
    (congrArg (·.last.stderr) (hrun 6)).trans ?_⟩, statement, hname, hlevel, ?_⟩
  · decide +kernel
  · decide +kernel
  · intro p site message
    exact hlogged p statement ⟨-3⟩ hlevel site message

end Program

end LeveledLog
