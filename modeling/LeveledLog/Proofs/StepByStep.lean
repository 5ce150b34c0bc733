import LeveledLog.Program.Run

/-!
# Runs step by step

Carrying out steps one after the other is told here without a thought of ends: the program afterwards, and what is
seen on the way.  A run does just that, with all its steps if none of them ends the program, and else with those up
to the first one that does.

* `after_append`, `seen_append`: steps in two goes are steps in a row;
* `stderr_after`: standard error is what all steps added, in order;
* `Step.ends_iff`: only the log statement for fatal messages ends a program;
* `run_of_not_ends`, `run_append_of_ends`: a run, with its status;
* `getElem?_entries_run`, `map_added_run`: where a step is in the record of a run.
-/

namespace LeveledLog.Program

/-- The program after steps were carried out, all of them. -/
def after (p : Program) (steps : List Step) : Program :=
  steps.foldl (fun p s => (p.perform s).2) p

/-- What is seen of a step that is carried out. -/
def entry (p : Program) (s : Step) : Entry :=
  ⟨(p.perform s).1, p.added s⟩

/-- What is seen of steps that are carried out, all of them. -/
def seen (p : Program) : List Step → List Entry
  | [] => []
  | s :: rest => p.entry s :: (p.perform s).2.seen rest

theorem after_cons (p : Program) (s : Step) (rest : List Step) :
    p.after (s :: rest) = (p.perform s).2.after rest := rfl

theorem after_append (p : Program) (before rest : List Step) :
    p.after (before ++ rest) = (p.after before).after rest :=
  List.foldl_append

theorem seen_append (p : Program) (before rest : List Step) :
    p.seen (before ++ rest) = p.seen before ++ (p.after before).seen rest := by
  induction before generalizing p with
  | nil => rfl
  | cons s before ih =>
    show p.entry s :: (p.perform s).2.seen (before ++ rest) = _
    rw [ih]
    rfl

theorem length_seen (p : Program) (steps : List Step) : (p.seen steps).length = steps.length := by
  induction steps generalizing p with
  | nil => rfl
  | cons s rest ih => rw [seen, List.length_cons, ih, List.length_cons]

/-- Nothing of what steps add to standard error is lost or moved. -/
theorem stderr_after (p : Program) (steps : List Step) :
    (p.after steps).stderr = p.stderr ++ (p.seen steps).flatMap Entry.added := by
  induction steps generalizing p with
  | nil => exact (List.append_nil p.stderr).symm
  | cons s rest ih =>
    rw [after_cons, ih, stderr_perform, seen, List.flatMap_cons, List.append_assoc]
    rfl

/-! ### Ends -/

/-- Whether a step is the log statement for fatal messages. -/
def Step.IsFatal (s : Step) : Prop :=
  ∃ path message, s = .log (.ofSeverity .fatal) path message

theorem Step.ends_iff {s : Step} : s.ends = true ↔ s.IsFatal := by
  constructor
  · intro h
    cases s with
    | log statement path message =>
      cases statement with
      | ofSeverity severity =>
        have hfatal : severity = .fatal := of_decide_eq_true h
        exact ⟨path, message, by rw [hfatal]⟩
      | ofLevel level => exact absurd h Bool.false_ne_true
    | _ => exact absurd h Bool.false_ne_true
  · intro h
    obtain ⟨path, message, hs⟩ := h
    rw [hs]
    rfl

theorem Step.not_ends_iff {s : Step} : s.ends = false ↔ ¬s.IsFatal :=
  Bool.eq_false_iff.trans (not_congr ends_iff)

instance (s : Step) : Decidable s.IsFatal :=
  decidable_of_iff (s.ends = true) Step.ends_iff

theorem perform_of_ends {s : Step} (h : s.ends = true) (p : Program) :
    (p.perform s).1 = .exited fatalStatus :=
  exists_exited_iff.2 ⟨h, rfl⟩

/-- What is seen of steps that do not end the program are answers. -/
theorem answered_of_mem_seen {p : Program} {steps : List Step} (h : ∀ s ∈ steps, s.ends = false)
    {e : Entry} (he : e ∈ p.seen steps) : ∃ answer, e.outcome = .answered answer := by
  induction steps generalizing p with
  | nil => exact absurd he List.not_mem_nil
  | cons s rest ih =>
    obtain ⟨hs, hrest⟩ := List.forall_mem_cons.1 h
    rcases List.mem_cons.1 he with hhead | htail
    · rw [hhead]
      exact answered_of_not_ends hs p
    · exact ih hrest htail

/-- A run goes on behind steps that do not end the program. -/
theorem run_append (p : Program) {before : List Step} (h : ∀ s ∈ before, s.ends = false)
    (rest : List Step) :
    p.run (before ++ rest) =
      { (p.after before).run rest with
        entries := p.seen before ++ ((p.after before).run rest).entries } := by
  induction before generalizing p with
  | nil => rfl
  | cons s before ih =>
    obtain ⟨hs, hrest⟩ := List.forall_mem_cons.1 h
    obtain ⟨answer, hanswer⟩ := answered_of_not_ends hs p
    rw [List.cons_append, run_cons_of_answered hanswer, ih _ hrest, seen, entry, hanswer]
    rfl

/-- What is seen of a step of a run is in the record, behind the entries of the steps before it. -/
theorem getElem?_entries_run (p : Program) {before : List Step} (h : ∀ s ∈ before, s.ends = false)
    (s : Step) (rest : List Step) :
    (p.run (before ++ s :: rest)).entries[before.length]? = some ((p.after before).entry s) := by
  rw [run_append p h, ← length_seen p before, List.getElem?_append_right (Nat.le_refl _),
    Nat.sub_self, entry]
  cases hout : ((p.after before).perform s).1 with
  | answered answer =>
    rw [run_cons_of_answered hout]
    rfl
  | exited status =>
    rw [run_cons_of_exited hout]
    rfl

/-- So is what the step adds to standard error. -/
theorem map_added_run (p : Program) {before : List Step} (h : ∀ s ∈ before, s.ends = false)
    (s : Step) (rest : List Step) :
    ((p.run (before ++ s :: rest)).entries[before.length]?).map Entry.added =
      some ((p.after before).added s) := by
  rw [getElem?_entries_run p h]
  rfl

/-- A run without an end carries out all its steps. -/
theorem run_of_not_ends (p : Program) {steps : List Step} (h : ∀ s ∈ steps, s.ends = false) :
    p.run steps = ⟨p.seen steps, normalStatus, p.after steps⟩ := by
  have hrun := run_append p h []
  rw [List.append_nil, run_nil, List.append_nil] at hrun
  exact hrun

/-- A run carries out its steps up to the first one that ends the program. -/
theorem run_append_of_ends (p : Program) {before : List Step} (h : ∀ s ∈ before, s.ends = false)
    {s : Step} (hs : s.ends = true) (rest : List Step) :
    p.run (before ++ s :: rest) =
      ⟨p.seen (before ++ [s]), fatalStatus, p.after (before ++ [s])⟩ := by
  have hout := perform_of_ends hs (p.after before)
  rw [run_append p h, run_cons_of_exited hout, seen_append, after_append, seen, entry, hout]
  rfl

end LeveledLog.Program
