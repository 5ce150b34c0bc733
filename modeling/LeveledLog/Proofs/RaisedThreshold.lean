import LeveledLog.Proofs.Coloring
import LeveledLog.Proofs.LevelOrder
import LeveledLog.Proofs.StepByStep

/-!
# Raising the threshold

Emissions follow each other on a logger, and what it writes of them is one text.  A threshold decides which of them
become lines, and through debug mode how a line is laid out; it has no other influence.  So a higher threshold adds
lines and takes none away, and it leaves the lines that are written anyway as they are, unless it turns debug mode on.

* `Logger.taken_writeEach`, `Program.stderr_after_emissions`: what a sink and standard error get of emissions in a row;
* `Header.render_eq_of_same_mode`, `Header.render_eq_of_unnamed`: headers that do not depend on the threshold;
* `Emission.bytes_eq_of_header_eq`: an emission that is not between two thresholds;
* `Logger.raised_threshold_only_adds`: the two texts.
-/

namespace LeveledLog

/-! ### Emissions in a row -/

namespace Logger

/-- Writes emissions into a sink, one after the other. -/
def writeEach (log : Logger) (identity : Identity) (sink : Sink) : List Emission → Sink
  | [] => sink
  | e :: rest =>
    log.writeEach identity (log.writeTo sink identity e.level e.caller e.message).value rest

theorem taken_writeEach (log : Logger) (identity : Identity) (taken : Bytes) (calls : Nat)
    (es : List Emission) :
    (log.writeEach identity ⟨none, taken, calls⟩ es).taken =
      taken ++ es.flatMap fun e => e.bytes log identity := by
  induction es generalizing taken calls with
  | nil => exact (List.append_nil taken).symm
  | cons e rest ih =>
    obtain ⟨calls', hsink⟩ :=
      exists_value_writeTo_unlimited log identity e.level e.caller e.message taken calls
    rw [writeEach, hsink, ih, List.flatMap_cons, List.append_assoc]
    rfl

end Logger

/-- The step of a program that does an emission. -/
def Emission.step (e : Emission) : Program.Step :=
  .emit e.level e.caller e.message

/-- A program whose steps are emissions adds their lines to standard error, in order. -/
theorem Program.stderr_after_emissions (p : Program) (es : List Emission) :
    (p.after (es.map Emission.step)).stderr =
      p.stderr ++ es.flatMap fun e => e.bytes p.logger p.identity := by
  induction es generalizing p with
  | nil => exact (List.append_nil p.stderr).symm
  | cons e rest ih =>
    rw [List.map_cons, after_cons, ih, List.flatMap_cons, ← List.append_assoc]
    rfl

/-! ### What a threshold changes of a header -/

theorem Layout.select_eq_of_same_mode {t t' : Level}
    (h : 5 ≤ t.rank.toInt ↔ 5 ≤ t'.rank.toInt) (level : Level) :
    select level t = select level t' := by
  simp only [select, debug_le_iff, h]

namespace Header

/-- A threshold changes headers only through debug mode. -/
theorem render_eq_of_same_mode {t t' : Level} (h : 5 ≤ t.rank.toInt ↔ 5 ≤ t'.rank.toInt)
    (level : Level) (colored : Bool) (caller : Caller) (identity : Identity) :
    render level t colored caller identity = render level t' colored caller identity := by
  rw [render, render, Layout.select_eq_of_same_mode h]

/-- It does not change the header of a level without a name below debug at all. -/
theorem render_eq_of_unnamed {level : Level} (hname : level.isNamed = false)
    (hlow : level.rank.toInt < 5) (t t' : Level) (colored : Bool) (caller : Caller)
    (identity : Identity) :
    render level t colored caller identity = render level t' colored caller identity := by
  have hselect : ∀ t, Layout.select level t = .unknown := fun t =>
    Layout.select_eq_unknown_iff.2 ⟨hname, .inl hlow⟩
  rw [render, render, hselect t, hselect t']

end Header

/-! ### Two thresholds -/

namespace Emission

variable {low high : Logger} {e : Emission} {identity : Identity}

theorem bytes_ne_nil_iff : e.bytes low identity ≠ [] ↔ e.level ≤ low.threshold := by
  rw [bytes, ne_eq, Logger.value_emit_eq_nil_iff, Decidable.not_not]

theorem bytes_eq_nil (h : low.threshold < e.level) : e.bytes low identity = [] :=
  Logger.value_emit_eq_nil_iff.2 (not_le.2 h)

/-- What passes a threshold passes a higher one. -/
theorem bytes_ne_nil_of_le (hle : low.threshold ≤ high.threshold)
    (h : e.bytes low identity ≠ []) : e.bytes high identity ≠ [] := by
  rw [bytes_ne_nil_iff] at h ⊢
  exact le_trans h hle

/-- Two loggers that give an emission the same header write the same of it, unless it passes one of them only. -/
theorem bytes_eq_of_header_eq (hle : low.threshold ≤ high.threshold)
    (hheader : low.header identity e.level e.caller = high.header identity e.level e.caller)
    (hout : ¬(low.threshold < e.level ∧ e.level ≤ high.threshold)) :
    e.bytes low identity = e.bytes high identity := by
  refine Logger.value_emit_eq_of_header_eq ?_ hheader e.message
  constructor
  · intro h
    exact le_trans h hle
  · intro hhigh
    exact not_lt.1 fun h => hout ⟨h, hhigh⟩

end Emission

namespace Logger

/-- The emissions of a list that become lines. -/
def written (log : Logger) (identity : Identity) (es : List Emission) : List Emission :=
  es.filter fun e => decide (e.bytes log identity ≠ [])

/-- Those under a threshold are found among those under a higher one, in order. -/
theorem written_sublist (identity : Identity) {low high : Logger}
    (hle : low.threshold ≤ high.threshold) (es : List Emission) :
    (low.written identity es).Sublist (high.written identity es) := by
  have hagain : low.written identity es = low.written identity (high.written identity es) := by
    rw [written, written, written, List.filter_filter]
    refine List.filter_congr fun e _ => ?_
    by_cases h : e.bytes low identity = []
    · simp [h]
    · simp [h, Emission.bytes_ne_nil_of_le hle h]
  rw [hagain]
  exact List.filter_sublist

/-- Raising the threshold only adds lines.  Of two loggers with the same color setting the one with the higher
threshold writes a line of every emission of which the other one does, so that the messages of the one are found among
those of the other, in order.  If both thresholds are below debug or both are not, the text of the lower one is the
text of the higher one without the lines of the emissions in between, byte for byte.  In any case an emission of a
level without a name below debug brings the same line, if it is not in between.  The text is what a sink gets, and
what a program that carries out the emissions adds to standard error. -/
theorem raised_threshold_only_adds (identity : Identity) {low high : Logger}
    (hcolor : low.colored = high.colored) (hle : low.threshold ≤ high.threshold)
    (es : List Emission) :
    let text := fun log : Logger => (log.writeEach identity (.fresh none) es).taken
    let messages := fun log : Logger => (log.written identity es).map (·.message.written)
    let t := low.threshold.rank.toInt
    let t' := high.threshold.rank.toInt
    (∀ e ∈ es, e.bytes low identity ≠ [] → e.bytes high identity ≠ []) ∧
      (messages low).Sublist (messages high) ∧
      (t < 5 ∧ t' < 5 ∨ 5 ≤ t ∧ 5 ≤ t' →
        text high = (es.flatMap fun e => e.bytes high identity) ∧
          text low = es.flatMap fun e =>
            if low.threshold < e.level ∧ e.level ≤ high.threshold then []
            else e.bytes high identity) ∧
      (∀ e : Emission, e.level.isNamed = false → e.level.rank.toInt < 5 →
        ¬(low.threshold < e.level ∧ e.level ≤ high.threshold) →
          e.bytes low identity = e.bytes high identity) ∧
      ∀ p : Program, (p.after (es.map Emission.step)).stderr =
        p.stderr ++ (p.logger.writeEach p.identity (.fresh none) es).taken := by
  intro text messages t t'
  have htext : ∀ log : Logger, text log = es.flatMap fun e => e.bytes log identity := fun log =>
    taken_writeEach log identity [] 0 es
  refine ⟨fun e _ => Emission.bytes_ne_nil_of_le hle, (written_sublist identity hle es).map _, ?_, ?_, ?_⟩
  · intro hmode
    have hsame : 5 ≤ t ↔ 5 ≤ t' := by omega
    refine ⟨htext high, (htext low).trans (congrArg (es.flatMap ·) (funext fun e => ?_))⟩
    split
    · next hbetween => exact Emission.bytes_eq_nil hbetween.1
    · next hout =>
      refine Emission.bytes_eq_of_header_eq hle ?_ hout
      rw [header, header, hcolor]
      exact Header.render_eq_of_same_mode hsame e.level high.colored e.caller identity
  · intro e hname hlow hout
    refine Emission.bytes_eq_of_header_eq hle ?_ hout
    rw [header, header, hcolor]
    exact Header.render_eq_of_unnamed hname hlow _ _ high.colored e.caller identity
  · intro p
    rw [Program.stderr_after_emissions]
    exact congrArg (p.stderr ++ ·) (taken_writeEach p.logger p.identity [] 0 es).symm

/-- One emission in between, one at each threshold, and one graver than all severities whose message fails. -/
theorem raised_threshold_only_adds_below_debug :
    let es : List Emission := [⟨⟨1⟩, default, [.text "a"]⟩, ⟨⟨-9⟩, default, [.text "b", .fault]⟩,
      ⟨⟨0⟩, default, [.text "c"]⟩, ⟨⟨4⟩, default, [.text "d"]⟩, ⟨⟨5⟩, default, [.text "e"]⟩]
    let low : Logger := ⟨⟨0⟩, false⟩
    let high : Logger := ⟨⟨4⟩, false⟩
    low.colored = high.colored ∧ low.threshold ≤ high.threshold ∧
      (low.writeEach ⟨0, 83⟩ (.fresh none) es).taken =
        Text.utf8 "\x1b[1;31m????:   \x1b[0m b\n\x1b[1;31m????:   \x1b[0m c\n" := by
  intro es low high
  have hcolor : low.colored = high.colored := rfl
  have hle : low.threshold ≤ high.threshold := by decide
  obtain ⟨-, -, htext, -⟩ := raised_threshold_only_adds ⟨0, 83⟩ hcolor hle es
  refine ⟨hcolor, hle, (htext (by decide)).2.trans ?_⟩
  decide +kernel

end Logger

end LeveledLog
