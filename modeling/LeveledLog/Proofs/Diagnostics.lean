import LeveledLog.Proofs.DisabledLogging
import LeveledLog.Proofs.FatalExit
import Mathlib.Tactic.TFAE

/-!
# Diagnostics beside the log

A program writes diagnostics of its own to the stream that its logger names.  A device without a limit refuses nothing,
so both streams respond alike, and only what arrives tells them apart.  That is decided by the threshold, in step with
the emission of fatal messages.

* `Logger.reaches_stream`, `Logger.exists_enabled_iff`: the stream and the severities under a threshold;
* `Program.diagnostics_follow_fatal`: what a request gets, changes and adds wherever a run comes to it.
-/

namespace LeveledLog

/-! ### The gate -/

namespace Logger

theorem reaches_stream (log : Logger) (bs : Bytes) :
    log.stream.reaches bs = if -4 ≤ log.threshold.rank.toInt then bs else [] := by
  cases h : log.stream with
  | stderr =>
    have hfatal : -4 ≤ log.threshold.rank.toInt :=
      Program.enabled_fatal_iff.1 (stream_eq_stderr_iff.1 h)
    rw [if_pos hfatal, Stream.reaches_stderr]
  | discard =>
    have hfatal : ¬-4 ≤ log.threshold.rank.toInt := by
      intro hle
      rw [stream_eq_stderr_iff.2 (Program.enabled_fatal_iff.2 hle)] at h
      nomatch h
    rw [if_neg hfatal, Stream.reaches_discard]

/-- Some severity passes a threshold exactly if the gravest one does. -/
theorem exists_enabled_iff {log : Logger} :
    (∃ s : Severity, log.enabled s.level = true) ↔ -4 ≤ log.threshold.rank.toInt := by
  constructor
  · rintro ⟨s, hs⟩
    exact Int.le_trans (Level.le_iff.1 (Level.fatal_le s)) (Level.le_iff.1 (enabled_iff.1 hs))
  · intro h
    exact ⟨.fatal, Program.enabled_fatal_iff.2 h⟩

end Logger

namespace Program

theorem perform_request (p : Program) (r : Request) :
    p.perform (.request r) =
      (.answered (.response r.success), { p with
        made := some p.logger
        stderr := p.stderr ++ if -4 ≤ p.logger.threshold.rank.toInt then r.bytes else [] }) := by
  rw [← Logger.reaches_stream, perform, request_eq]
  rfl

theorem added_request (p : Program) (r : Request) :
    p.added (.request r) = if -4 ≤ p.logger.threshold.rank.toInt then r.bytes else [] := by
  rw [added, perform_request, List.drop_left]

theorem entry_request (p : Program) (r : Request) :
    p.entry (.request r) =
      ⟨.answered (.response r.success),
        if -4 ≤ p.logger.threshold.rank.toInt then r.bytes else []⟩ := by
  rw [entry, added_request, perform_request]

/-- Wherever a run comes to a request, it succeeds.  A text that is to be written is reported with all its bytes, and
standard error gains the bytes of the text, with a newline behind a line and none at all for a flush, exactly if the
threshold is at least -4; the logger and the rest of the program stay as they are.  The stream that the logger names
gives the same response, and the same bytes, on any device that refuses nothing.  So bytes arrive exactly where a fatal
message would be written, by an emission or by a log statement, and where at least one severity passes. -/
theorem diagnostics_follow_fatal (identity : Identity) (value : Environment.Value)
    (before : List Step) (h : ∀ s ∈ before, s.ends = false) (rest : List Step) :
    let first := start identity value
    let p := first.after before
    let t := p.logger.threshold.rank.toInt
    let kept := fun bs : Bytes => if -4 ≤ t then bs else []
    let seen := fun r : Request =>
      (first.run (before ++ .request r :: rest)).entries[before.length]?
    (∀ text,
        seen (.write text) =
          some ⟨.answered (.response (.accepted (Text.utf8 text).length)), kept (Text.utf8 text)⟩ ∧
        seen (.writeAll text) = some ⟨.answered (.response .done), kept (Text.utf8 text)⟩ ∧
        seen (.writeLine text) =
          some ⟨.answered (.response .done), kept (Text.utf8 text ++ Text.utf8 "\n")⟩ ∧
        seen .flush = some ⟨.answered (.response .done), []⟩) ∧
      (∀ r : Request,
        (p.perform (.request r)).2 =
            { p with made := some p.logger, stderr := p.stderr ++ kept r.bytes } ∧
          (p.perform (.request r)).2.logger = p.logger ∧
          ∀ calls, ∃ calls', p.logger.stream.handle ⟨none, p.stderr, calls⟩ r =
            (r.success, ⟨none, p.stderr ++ kept r.bytes, calls'⟩)) ∧
      ∀ (r : Request) (s : Step) (e : Emission), r.bytes ≠ [] → s.emission? = some e →
        e.level = Severity.fatal.level →
          [p.added (.request r) = r.bytes, p.added (.request r) ≠ [], p.added s ≠ [],
            ∃ severity : Severity, p.logger.enabled severity.level = true].TFAE := by
  intro first p t kept seen
  have hseen : ∀ r, seen r = some ⟨.answered (.response r.success), kept r.bytes⟩ := by
    intro r
    rw [← entry_request]
    exact getElem?_entries_run first h _ rest
  refine ⟨?_, ?_, ?_⟩
  · intro text
    refine ⟨hseen _, hseen _, ?_, ?_⟩
    · rw [hseen, Request.bytes, Text.utf8_append]
      rfl
    · have hnothing : kept [] = [] := ite_self []
      rw [hseen, Request.bytes, hnothing]
      rfl
  · intro r
    have hstate : (p.perform (.request r)).2 =
        { p with made := some p.logger, stderr := p.stderr ++ kept r.bytes } :=
      congrArg Prod.snd (perform_request p r)
    have hreaches : p.logger.stream.reaches r.bytes = kept r.bytes :=
      Logger.reaches_stream p.logger r.bytes
    refine ⟨hstate, ?_, ?_⟩
    · rw [hstate]
      rfl
    · intro calls
      rw [← hreaches]
      exact Stream.handle_unlimited p.logger.stream r p.stderr calls
  · intro r s e hr hs hlevel
    have hadded : p.added (.request r) = kept r.bytes := added_request p r
    have hemission : p.added s ≠ [] ↔ -4 ≤ t := by
      rw [ne_eq, added_eq_nil_iff hs, not_lt, hlevel]
      exact Level.le_iff
    tfae_have 1 → 2 := by
      intro heq
      rw [heq]
      exact hr
    tfae_have 2 → 3 := by
      intro hne
      refine hemission.2 (Decidable.not_not.1 fun hlow => hne ?_)
      rw [hadded]
      exact if_neg hlow
    tfae_have 3 → 4 := fun hline => Logger.exists_enabled_iff.2 (hemission.1 hline)
    tfae_have 4 → 1 := by
      intro hsome
      rw [hadded]
      exact if_pos (Logger.exists_enabled_iff.1 hsome)
    tfae_finish

/-- A line that is dropped under a threshold of -5 and one that is kept under a threshold of -4, both with success. -/
theorem diagnostics_follow_fatal_on_both_sides :
    let low := [Step.setThreshold ⟨-5⟩]
    let high := [Step.setThreshold ⟨-5⟩, .request (.writeLine "größe"), .setThreshold ⟨-4⟩]
    let first := start ⟨0, 83⟩ none
    (∀ s ∈ low, s.ends = false) ∧ (∀ s ∈ high, s.ends = false) ∧
      (first.run (low ++ [.request (.write "größe")])).entries[1]? =
        some ⟨.answered (.response (.accepted 7)), []⟩ ∧
      (first.run (high ++ [.request (.write "größe")])).entries[3]? =
        some ⟨.answered (.response (.accepted 7)), Text.utf8 "größe"⟩ ∧
      (Request.write "größe").bytes ≠ [] ∧
      Step.emission? (.emit ⟨-4⟩ default []) = some ⟨Severity.fatal.level, default, []⟩ ∧
      (first.after high).added (.emit ⟨-4⟩ default []) ≠ [] := by
  intro low high first
  have hlow : ∀ s ∈ low, s.ends = false := by decide
  have hhigh : ∀ s ∈ high, s.ends = false := by decide
  have hbytes : (Request.write "größe").bytes ≠ [] := by decide +kernel
  have hemits : Step.emission? (.emit ⟨-4⟩ default []) = some ⟨Severity.fatal.level, default, []⟩ := rfl
  obtain ⟨hdropped, -⟩ := diagnostics_follow_fatal ⟨0, 83⟩ none low hlow []
  obtain ⟨hkept, -, hgate⟩ := diagnostics_follow_fatal ⟨0, 83⟩ none high hhigh []
  have hsome : ∃ severity : Severity, (first.after high).logger.enabled severity.level = true :=
    ⟨.fatal, by decide +kernel⟩
  have hlength : (Text.utf8 "größe").length = 7 := by decide +kernel
  have hbelow : ¬-4 ≤ (first.after low).logger.threshold.rank.toInt := by decide +kernel
  have hat : -4 ≤ (first.after high).logger.threshold.rank.toInt := by decide +kernel
  refine ⟨hlow, hhigh, ?_, ?_, hbytes, hemits, ?_⟩
  · refine (hdropped "größe").1.trans ?_
    rw [hlength]
    exact congrArg (fun bs => some (Entry.mk (.answered (.response (.accepted 7))) bs)) (if_neg hbelow)
  · refine (hkept "größe").1.trans ?_
    rw [hlength]
    exact congrArg (fun bs => some (Entry.mk (.answered (.response (.accepted 7))) bs)) (if_pos hat)
  · exact ((hgate _ _ _ hbytes hemits rfl).out 2 3).2 hsome

end Program

end LeveledLog
