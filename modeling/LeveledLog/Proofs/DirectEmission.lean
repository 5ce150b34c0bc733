import LeveledLog.Proofs.SharedLogger

/-!
# Log statements and direct emissions

A log statement asks the logger first, evaluates its argument only if the level passes, and then emits the message;
the emission asks the logger a second time.  A direct emission comes with its message and asks once.  The two ways
leave the same program behind, after one step and after any number of them, and they format a message equally often.

* `Step.direct`: a step with the direct emission in the place of a log statement;
* `program_perform_direct`: both leave the same program;
* `after_map_direct`: so do steps in a row;
* `usage_log_statement`, `usage_emit_direct`: what they evaluate and format;
* `log_agrees_with_emit`: all of that for a log statement in a run.
-/

namespace LeveledLog.Program

/-! ### The direct form of a step -/

/-- A step with the direct emission in the place of a log statement. -/
def Step.direct : Step → Step
  | .log statement path message => .emit statement.level (.ofMarkerPath path) message
  | s => s

/-- Asking the logger twice or once, and early or late, makes no difference to the program. -/
theorem program_perform_direct (p : Program) (s : Step) :
    (p.perform s.direct).2 = (p.perform s).2 := by
  cases s with
  | log statement path message =>
    show (p.emit statement.level (.ofMarkerPath path) message).value =
      (p.log statement.level path message.argument).value
    rw [value_log, Message.value_argument]
  | _ => rfl

theorem added_direct (p : Program) (s : Step) : p.added s.direct = p.added s := by
  rw [added, program_perform_direct, added]

/-- Steps in a row and their direct forms leave the same program, logger and standard error included. -/
theorem after_map_direct (p : Program) (steps : List Step) :
    p.after (steps.map Step.direct) = p.after steps := by
  induction steps generalizing p with
  | nil => rfl
  | cons s rest ih => rw [List.map_cons, after_cons, after_cons, program_perform_direct, ih]

/-! ### What is evaluated and formatted -/

/-- The evaluations and formattings of a log statement under a threshold: one of each, or none. -/
def statementCounts (level threshold : Level) : Usage :=
  if level ≤ threshold then ⟨1, 1⟩ else ⟨0, 0⟩

theorem usage_log_statement (p : Program) (level : Level) (path : String) (message : Message) :
    (p.log level path message.argument).usage = statementCounts level p.logger.threshold := by
  rw [usage_log, statementCounts]
  by_cases h : level ≤ p.logger.threshold
  · rw [if_pos (Logger.enabled_iff.2 h), if_pos h]
    rfl
  · rw [if_neg (mt Logger.enabled_iff.1 h), if_neg h]
    rfl

/-- A direct emission has nothing to evaluate, and it formats as a log statement does. -/
theorem usage_emit_direct (p : Program) (level : Level) (caller : Caller) (message : Message) :
    (p.emit level caller message).usage =
      ⟨0, (statementCounts level p.logger.threshold).formatted⟩ := by
  rw [usage_emit, Logger.usage_emit, Logger.usage_line?, statementCounts]
  by_cases h : level ≤ p.logger.threshold
  · rw [if_pos (Logger.enabled_iff.2 h), if_pos h]
    rfl
  · rw [if_neg (mt Logger.enabled_iff.1 h), if_neg h]
    rfl

theorem statementCounts_iff {level threshold : Level} :
    ((statementCounts level threshold).evaluated = 1 ↔ level ≤ threshold) ∧
      ((statementCounts level threshold).formatted = 1 ↔ level ≤ threshold) := by
  rw [statementCounts]
  by_cases h : level ≤ threshold <;> simp [h]

/-! ### A log statement in a run -/

/-- Wherever a run gets to a log statement, the statement adds to standard error what a direct emission of the level it
logs at, from its function and with its message, would add there, and it leaves the same program, with the logger as it
was.  That level is the rank of its severity, or the one that it is given.  So a program that emits directly wherever
another one logs ends up like that one.  The argument is evaluated once and the message is formatted once if the level
is at most the threshold, and else neither is touched, whether the message fails or not; the statement for fatal
messages exits afterwards.  Asking beforehand gives the same answer twice, and it is yes
exactly if both numbers are one. -/
theorem log_agrees_with_emit (identity : Identity) (value : Environment.Value) (before : List Step)
    (h : ∀ t ∈ before, t.ends = false) (statement : Statement) (level : Level)
    (hlevel : statement.LogsAt level) (site : Site) (message : Message) (rest : List Step) :
    let first := start identity value
    let p := first.after before
    let logged := Step.log statement site.path message
    let emitted := Step.emit level ⟨site.function⟩ message
    let bytes := (p.logger.emit p.identity level ⟨site.function⟩ message).value
    let counts : Usage := if level ≤ p.logger.threshold then ⟨1, 1⟩ else ⟨0, 0⟩
    let passes := p.logger.enabled level
    (first.run (before ++ logged :: rest)).entries[before.length]? =
        some ⟨if statement.ends then .exited 255 else .answered (.usage counts), bytes⟩ ∧
      (first.run (before ++ emitted :: rest)).entries[before.length]? =
        some ⟨.answered (.usage ⟨0, counts.formatted⟩), bytes⟩ ∧
      (p.perform logged).2 = (p.perform emitted).2 ∧
      (p.perform logged).2.logger = p.logger ∧
      first.after ((before ++ [logged]).map Step.direct) = (p.perform logged).2 ∧
      (p.log level site.path message.argument).usage = counts ∧
      (p.perform (.enabled level)).1 = .answered (.passes passes passes) ∧
      (passes = true ↔ counts.evaluated = 1) ∧ (passes = true ↔ counts.formatted = 1) := by
  intro first p logged emitted bytes counts passes
  have hown : statement.level = level := Statement.logsAt_iff.1 hlevel
  have hdirect : logged.direct = emitted := by
    show Step.emit statement.level (.ofMarkerPath site.path) message = _
    rw [hown, Caller.ofMarkerPath_path]
  have hemits : emitted.emission? = some ⟨level, ⟨site.function⟩, message⟩ := rfl
  have hbytes : p.added emitted = bytes := added_eq_bytes hemits p
  have hstate : (p.perform logged).2 = (p.perform emitted).2 := by
    rw [← hdirect, program_perform_direct]
  have hcounts : (p.log level site.path message.argument).usage = counts :=
    usage_log_statement p level site.path message
  have hpasses : passes = true ↔ level ≤ p.logger.threshold := Logger.enabled_iff
  refine ⟨?_, ?_, hstate, ?_, ?_, hcounts, rfl, hpasses.trans statementCounts_iff.1.symm,
    hpasses.trans statementCounts_iff.2.symm⟩
  · rw [getElem?_entries_run first h, ← hbytes, ← hdirect, added_direct, ← hcounts, ← hown]
    rfl
  · rw [getElem?_entries_run first h, ← hbytes]
    show some (Entry.mk (.answered (.usage (p.emit level ⟨site.function⟩ message).usage))
      (p.added emitted)) = _
    rw [usage_emit_direct]
    rfl
  · rw [hstate]
    rfl
  · rw [after_map_direct, after_append]
    rfl

/-- A warning in a closure, at the threshold itself, with a message that fails halfway. -/
theorem log_agrees_with_emit_of_failing_message :
    let before := [Step.disableColor, .setThreshold ⟨-2⟩,
      .log (.ofSeverity .info) "run::__sylog_marker" []]
    let message : Message := [.text "up", .fault, .text "lost"]
    (∀ t ∈ before, t.ends = false) ∧ Statement.LogsAt (.ofSeverity .warning) ⟨-2⟩ ∧
      ∃ site : Site, site.path = "app::serve::\x7b\x7bclosure\x7d\x7d::__sylog_marker" ∧
        ((start ⟨0, 83⟩ none).run
          (before ++ [.log (.ofSeverity .warning) site.path message])).entries[3]?.map Entry.added =
            some (Text.utf8 "WARNING: up\n") ∧
        (((start ⟨0, 83⟩ none).after before).log ⟨-2⟩ site.path message.argument).usage =
          ⟨1, 1⟩ := by
  intro before message
  have hquiet : ∀ t ∈ before, t.ends = false := by decide
  have hlevel : Statement.LogsAt (.ofSeverity .warning) ⟨-2⟩ := .warning
  let site : Site := ⟨some "app", "serve", 1, ⟨by decide, by decide, by decide⟩⟩
  obtain ⟨hentry, -, -, -, -, hcounts, -⟩ :=
    log_agrees_with_emit ⟨0, 83⟩ none before hquiet (.ofSeverity .warning) ⟨-2⟩ hlevel site message []
  refine ⟨hquiet, hlevel, site, by decide +kernel,
    (congrArg (Option.map Entry.added) hentry).trans ?_, hcounts.trans ?_⟩
  · decide +kernel
  · decide +kernel

end LeveledLog.Program
