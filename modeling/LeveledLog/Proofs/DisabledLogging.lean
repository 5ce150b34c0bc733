import LeveledLog.Proofs.HeaderByRank
import LeveledLog.Proofs.LevelOrder
import LeveledLog.Proofs.SharedLogger

/-!
# Thresholds below all severities

Under a threshold below the gravest severity other diagnostics are dropped, and no message of a severity passes.  That
does not make a program silent: a level without a name may be graver still, and a message of such a level passes every
threshold down to its own rank.  Its line carries the mark of an unknown level.

* `Program.added_of_lt_fatal`: what a step adds under such a threshold that emits a message;
* `Program.added_while_disabled`: the same for the steps of a run;
* `Program.not_silent_while_disabled`: some run is not silent.
-/

namespace LeveledLog

/-! ### Levels below all severities -/

namespace Level

theorem fatal_le (s : Severity) : Severity.fatal.level ≤ s.level := by
  cases s <;> decide

/-- A level below the gravest severity has no name. -/
theorem isNamed_of_lt_fatal {l : Level} (h : l < Severity.fatal.level) : l.isNamed = false := by
  refine Bool.eq_false_iff.2 fun hname => ?_
  obtain ⟨s, rfl⟩ := isNamed_iff.1 hname
  exact not_lt_of_ge (fatal_le s) h

/-- Under a threshold below the gravest severity no severity passes. -/
theorem lt_severity_of_lt_fatal {l : Level} (h : l < Severity.fatal.level) (s : Severity) :
    l < s.level :=
  lt_of_lt_of_le h (fatal_le s)

end Level

/-- The header of such a level is the same under every threshold. -/
theorem Header.render_of_lt_fatal {level : Level} (h : level < Severity.fatal.level)
    (threshold : Level) (colored : Bool) (caller : Caller) (identity : Identity) :
    render level threshold colored caller identity = "\x1b[1;31m????:   \x1b[0m " := by
  have hlow : level.rank.toInt < 5 := Int.lt_trans (Level.lt_iff.1 h) (by decide)
  have hselect : Layout.select level threshold = .unknown :=
    Layout.select_eq_unknown_iff.2 ⟨Level.isNamed_of_lt_fatal h, .inl hlow⟩
  rw [render, hselect]
  rfl

namespace Program

variable {p : Program} {s : Step} {e : Emission}

/-! ### Steps that emit a message -/

/-- What such a step adds under a threshold below all severities: a line with the mark of an unknown level if its level
is as grave as the threshold, and else nothing. -/
theorem added_of_lt_fatal (hoff : p.logger.threshold < Severity.fatal.level)
    (hs : s.emission? = some e) :
    p.added s =
      if e.level ≤ p.logger.threshold then
        Text.utf8 ("\x1b[1;31m????:   \x1b[0m " ++ e.message.written ++ "\n")
      else [] := by
  rw [added_eq_bytes hs, Emission.bytes]
  by_cases h : e.level ≤ p.logger.threshold
  · have hlow : e.level < Severity.fatal.level := lt_of_le_of_lt h hoff
    have hheader : p.logger.header p.identity e.level e.caller = "\x1b[1;31m????:   \x1b[0m " :=
      Header.render_of_lt_fatal hlow p.logger.threshold p.logger.colored e.caller p.identity
    rw [Logger.value_emit_of_le h, if_pos h, hheader]
  · rw [Logger.value_emit_eq_nil_iff.2 h, if_neg h]

/-- Under every threshold such a step is silent exactly if its level does not pass. -/
theorem added_eq_nil_iff (hs : s.emission? = some e) :
    p.added s = [] ↔ p.logger.threshold < e.level := by
  rw [added_eq_bytes hs, Emission.bytes, Logger.value_emit_eq_nil_iff, not_le]

/-! ### Runs -/

/-- While the threshold of a program is below -4 its stream for other diagnostics drops everything, and a step that
emits a message is silent exactly if its level is above the threshold.  So no message of a level from -4 on is
written, and none of a log statement for a severity.  A message of a level that is as grave as the threshold is
written, with the mark of an unknown level in alert colors. -/
theorem added_while_disabled (identity : Identity) (value : Environment.Value)
    (before : List Step) (hrun : ∀ t ∈ before, t.ends = false) (s : Step) (rest : List Step)
    (e : Emission) (hs : s.emission? = some e) :
    let p := (start identity value).after before
    p.logger.threshold.rank.toInt < -4 →
      p.logger.stream = .discard ∧
      ((start identity value).run (before ++ s :: rest)).entries[before.length]?.map Entry.added =
        some (if e.level ≤ p.logger.threshold then
          Text.utf8 ("\x1b[1;31m????:   \x1b[0m " ++ e.message.written ++ "\n")
        else []) ∧
      (p.added s = [] ↔ p.logger.threshold < e.level) ∧
      (-4 ≤ e.level.rank.toInt → p.added s = []) ∧
      ∀ severity path text, p.added (.log (.ofSeverity severity) path text) = [] := by
  intro p hoff
  have hlt : p.logger.threshold < Severity.fatal.level := Level.lt_iff.2 hoff
  have hsilent : p.added s = [] ↔ p.logger.threshold < e.level := added_eq_nil_iff hs
  refine ⟨if_pos hlt, ?_, hsilent, ?_, ?_⟩
  · rw [map_added_run _ hrun, ← added_of_lt_fatal hlt hs]
  · intro hlevel
    exact hsilent.2 (Level.lt_iff.2 (Int.lt_of_lt_of_le hoff hlevel))
  · intro severity path text
    exact (added_eq_nil_iff (Step.emission?_log _ path text)).2
      (Level.lt_severity_of_lt_fatal hlt severity)

/-- A threshold of -10 holds a fatal message back and lets one of its own rank through. -/
theorem added_while_disabled_at_threshold :
    let before := [Step.setThreshold ⟨-10⟩, .log (.ofLevel ⟨-4⟩) "run::__sylog_marker" [.text "a"]]
    let p := (start ⟨0, 83⟩ none).after before
    (∀ t ∈ before, t.ends = false) ∧
      Step.emission? (.emit ⟨-10⟩ default [.text "b"]) = some ⟨⟨-10⟩, default, [.text "b"]⟩ ∧
      p.logger.threshold.rank.toInt < -4 ∧
      ((start ⟨0, 83⟩ none).run (before ++ [.emit ⟨-10⟩ default [.text "b"]])).entries[2]?.map
        Entry.added = some (Text.utf8 "\x1b[1;31m????:   \x1b[0m b\n") := by
  intro before p
  have hrun : ∀ t ∈ before, t.ends = false := by decide
  have hoff : p.logger.threshold.rank.toInt < -4 := by decide +kernel
  obtain ⟨-, hadded, -⟩ := added_while_disabled ⟨0, 83⟩ none before hrun
    (.emit ⟨-10⟩ default [.text "b"]) [] ⟨⟨-10⟩, default, [.text "b"]⟩ rfl hoff
  refine ⟨hrun, rfl, hoff, hadded.trans ?_⟩
  decide +kernel

/-- A threshold below -4 does not silence a program: a message of the threshold's own level is written. -/
theorem not_silent_while_disabled :
    ¬∀ (identity : Identity) (value : Environment.Value) (before : List Step) (s : Step),
      (∀ t ∈ before, t.ends = false) → s.emission? ≠ none →
        ((start identity value).after before).logger.threshold.rank.toInt < -4 →
          ((start identity value).after before).added s = [] := by
  intro h
  have hsilent := h ⟨0, 83⟩ (.ofText "-10") [] (.emit ⟨-10⟩ default [.text "x"])
    (fun t ht => absurd ht List.not_mem_nil) (Option.some_ne_none _) (by decide +kernel)
  exact absurd hsilent (by decide +kernel)

end Program

end LeveledLog
