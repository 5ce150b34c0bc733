import LeveledLog.Proofs.Emission
import LeveledLog.Proofs.StepByStep

/-!
# The end of a program

Only the log statement for fatal messages ends a program, and it always does.  No other way to write at the fatal
level ends it, and neither a threshold nor a message that fails keeps the log statement from that.

* `exits_iff`: which step ends a program;
* `perform_fatal`: the last step, with what it writes and what it leaves;
* `usage_log_fatal`: its argument is not touched under a threshold that fatal messages do not pass;
* `run_until_fatal`: how far a run goes, its status, and its standard error.
-/

namespace LeveledLog.Program

theorem exits_iff {p : Program} {s : Step} :
    (∃ status, (p.perform s).1 = .exited status) ↔ s.IsFatal := by
  simp only [exists_exited_iff, Step.ends_iff, exists_and_left, exists_eq, and_true]

/-! ### The last step -/

/-- A fatal message passes a threshold from its own rank on. -/
theorem enabled_fatal_iff {log : Logger} :
    log.enabled Severity.fatal.level = true ↔ -4 ≤ log.threshold.rank.toInt :=
  Logger.enabled_iff.trans Level.le_iff

/-- The bytes that the log statement for fatal messages adds to standard error: its line, or nothing. -/
def fatalBytes (p : Program) (path : String) (message : Message) : Bytes :=
  if -4 ≤ p.logger.threshold.rank.toInt then
    Text.utf8 (p.logger.header p.identity Severity.fatal.level (.ofMarkerPath path)) ++
      message.beforeFault.flatMap Piece.bytes ++ Text.utf8 "\n"
  else []

theorem value_emit_fatal (p : Program) (path : String) (message : Message) :
    (p.logger.emit p.identity Severity.fatal.level (.ofMarkerPath path) message).value =
      p.fatalBytes path message := by
  rw [fatalBytes]
  by_cases h : -4 ≤ p.logger.threshold.rank.toInt
  · rw [if_pos h, Logger.emit_of_enabled (enabled_fatal_iff.2 h), Logger.lineBytes]
  · have hoff : p.logger.enabled Severity.fatal.level = false :=
      Bool.eq_false_iff.2 (mt enabled_fatal_iff.1 h)
    rw [if_neg h, Logger.emit_of_not_enabled hoff]

theorem perform_fatal (p : Program) (path : String) (message : Message) :
    p.perform (.log (.ofSeverity .fatal) path message) =
      (.exited 255, { p with
        made := some p.logger
        stderr := p.stderr ++ p.fatalBytes path message }) := by
  have hstate : (p.log Severity.fatal.level path message.argument).value =
      { p with made := some p.logger, stderr := p.stderr ++ p.fatalBytes path message } := by
    rw [value_log, value_emit, Message.value_argument, value_emit_fatal]
    rfl
  exact Prod.ext rfl hstate

theorem entry_fatal (p : Program) (path : String) (message : Message) :
    p.entry (.log (.ofSeverity .fatal) path message) =
      ⟨.exited 255, p.fatalBytes path message⟩ := by
  rw [entry, added, perform_fatal, List.drop_left]

theorem usage_log_fatal (p : Program) (path : String) (argument : Metered Message) :
    (p.log Severity.fatal.level path argument).usage =
      if -4 ≤ p.logger.threshold.rank.toInt then argument.usage + .formatting else 0 := by
  simp only [usage_log, enabled_fatal_iff]

/-! ### The whole run -/

/-- A run without a log statement for fatal messages answers every step, and the program exits normally.  Any other
run stops at the first such statement with the status for fatal messages, whatever the threshold and the color
setting are then.  The statement adds its line if fatal messages pass, and else it adds nothing and does not touch its
argument; all that was written before is there.  The steps behind it play no part, and no other step exits. -/
theorem run_until_fatal (identity : Identity) (value : Environment.Value) (steps : List Step) :
    let first := start identity value
    ((∀ s ∈ steps, ¬s.IsFatal) →
        first.run steps = ⟨first.seen steps, 0, first.after steps⟩ ∧
          (first.seen steps).length = steps.length ∧
          ∀ e ∈ first.seen steps, ∃ answer, e.outcome = .answered answer) ∧
      (∀ (before : List Step) (path : String) (message : Message) (rest : List Step),
        steps = before ++ .log (.ofSeverity .fatal) path message :: rest →
          (∀ s ∈ before, ¬s.IsFatal) →
            let p := first.after before
            let line := p.fatalBytes path message
            first.run steps =
                ⟨first.seen before ++ [⟨.exited 255, line⟩], 255,
                  { p with made := some p.logger, stderr := p.stderr ++ line }⟩ ∧
              p.stderr = (first.seen before).flatMap Entry.added ∧
              ∀ argument : Metered Message,
                (p.log Severity.fatal.level path argument).usage =
                  if -4 ≤ p.logger.threshold.rank.toInt then argument.usage + .formatting else 0) ∧
      ∀ (p : Program) (s : Step), (∃ status, (p.perform s).1 = .exited status) ↔ s.IsFatal := by
  intro first
  refine ⟨?_, ?_, fun p s => exits_iff⟩
  · intro h
    have hends : ∀ s ∈ steps, s.ends = false := fun s hs => Step.not_ends_iff.2 (h s hs)
    exact ⟨run_of_not_ends first hends, length_seen first steps,
      fun e he => answered_of_mem_seen hends he⟩
  · intro before path message rest hsteps h p line
    have hends : ∀ s ∈ before, s.ends = false := fun s hs => Step.not_ends_iff.2 (h s hs)
    have hlast : Step.ends (.log (.ofSeverity .fatal) path message) = true := rfl
    refine ⟨?_, stderr_after first before, usage_log_fatal p path⟩
    rw [hsteps, run_append_of_ends first hends hlast, seen_append, after_append, seen, seen,
      entry_fatal, after_cons, perform_fatal]
    rfl

/-- A fatal message that its threshold holds back, behind two fatal lines that did not end the program. -/
theorem run_until_fatal_of_filtered :
    (∀ s ∈ [Step.log (.ofLevel ⟨-4⟩) "run::__sylog_marker" [.text "a", .fault, .text "b"],
        .emit ⟨-4⟩ default [.text "c"], .setThreshold ⟨-5⟩], ¬s.IsFatal) ∧
      let record := (start ⟨0, 83⟩ none).run
        ([.log (.ofLevel ⟨-4⟩) "run::__sylog_marker" [.text "a", .fault, .text "b"],
          .emit ⟨-4⟩ default [.text "c"], .setThreshold ⟨-5⟩] ++
          .log (.ofSeverity .fatal) "run::__sylog_marker" [.text "d"] ::
            [.setThreshold ⟨5⟩, .log (.ofSeverity .fatal) "run::__sylog_marker" [.text "e"]])
      record.status = 255 ∧ record.entries.length = 4 ∧
        record.last.stderr = Text.utf8 "\x1b[31mFATAL:  \x1b[0m a\n\x1b[31mFATAL:  \x1b[0m c\n" := by
  have hbefore : ∀ s ∈ [Step.log (.ofLevel ⟨-4⟩) "run::__sylog_marker" [.text "a", .fault, .text "b"],
      .emit ⟨-4⟩ default [.text "c"], .setThreshold ⟨-5⟩], ¬s.IsFatal := by decide
  obtain ⟨hrun, -, -⟩ := (run_until_fatal ⟨0, 83⟩ none _).2.1 _ _ _ _ rfl hbefore
  refine ⟨hbefore, congrArg Record.status hrun, congrArg (·.entries.length) hrun,
    (congrArg (·.last.stderr) hrun).trans ?_⟩
  decide +kernel

end LeveledLog.Program
