import LeveledLog.Level.Severity

/-!
# Message levels

A message level is any 32-bit rank; eight of them carry a severity's name.  Levels are ordered by rank, and a
threshold is a level too: a message passes it if its own level is at most the threshold.  A level is shown by
the label that goes with its rank, or by a fixed text if there is none.

* `le_iff`, `lt_iff`: the order of levels is that of the integers;
* `severity?_eq_some_iff`: the severity of a level is the one of its rank;
* `label?_eq_map_severity?`: the ranks with a label are those of the severities;
* `mem_named`, `isNamed_iff`: so are the levels of the list, and those that carry a name.
-/

namespace LeveledLog

/-- A message level, or a threshold: a rank among the 32-bit integers. -/
structure Level where
  rank : Int32
  deriving DecidableEq

namespace Severity

/-- The level of a severity. -/
def level (s : Severity) : Level :=
  ⟨s.rank⟩

end Severity

namespace Level

/-! ### Order -/

instance : LE Level := ⟨fun a b => a.rank ≤ b.rank⟩

instance : LT Level := ⟨fun a b => a.rank < b.rank⟩

instance : DecidableLE Level := fun a b => inferInstanceAs (Decidable (a.rank ≤ b.rank))

instance : DecidableLT Level := fun a b => inferInstanceAs (Decidable (a.rank < b.rank))

instance : Ord Level := ⟨fun a b => compare a.rank b.rank⟩

theorem le_iff {a b : Level} : a ≤ b ↔ a.rank.toInt ≤ b.rank.toInt :=
  Int32.le_iff_toInt_le

theorem lt_iff {a b : Level} : a < b ↔ a.rank.toInt < b.rank.toInt :=
  Int32.lt_iff_toInt_lt

theorem ext_iff_toInt {a b : Level} : a = b ↔ a.rank.toInt = b.rank.toInt :=
  ⟨fun h => by rw [h], fun h => by cases a; cases b; exact congrArg mk (Int32.toInt_inj.1 h)⟩

/-- The levels of a list, the lowest first. -/
def ascending (levels : List Level) : List Level :=
  levels.mergeSort fun a b => decide (a ≤ b)

theorem perm_ascending (levels : List Level) : (ascending levels).Perm levels :=
  List.mergeSort_perm levels _

theorem pairwise_ascending (levels : List Level) : (ascending levels).Pairwise (· ≤ ·) := by
  refine (List.pairwise_mergeSort ?_ ?_ levels).imp fun h => of_decide_eq_true h
  · intro a b c hab hbc
    simp only [decide_eq_true_eq, le_iff] at hab hbc ⊢
    omega
  · intro a b
    simp only [Bool.or_eq_true, decide_eq_true_eq, le_iff]
    omega

/-! ### Names -/

/-- The levels that carry a name, in ascending order. -/
def named : List Level :=
  [Severity.fatal.level, Severity.error.level, Severity.warning.level, Severity.info.level,
    Severity.verbose.level, Severity.verbose2.level, Severity.verbose3.level, Severity.debug.level]

/-- The label of a level that carries a name. -/
def label? (l : Level) : Option String :=
  match l.rank.toInt with
  | -4 => some "FATAL"
  | -3 => some "ERROR"
  | -2 => some "WARNING"
  | 1 => some "INFO"
  | 2 => some "VERBOSE"
  | 3 => some "VERBOSE2"
  | 4 => some "VERBOSE3"
  | 5 => some "DEBUG"
  | _ => none

/-- Whether a level carries a name. -/
def isNamed (l : Level) : Bool :=
  l.label?.isSome

/-- What is shown in the place of a label where there is none. -/
def unknownLabel : String := "????"

/-- The text that stands for a level: its label if it has one. -/
def display (l : Level) : String :=
  l.label?.getD unknownLabel

/-- The severity whose level it is, if there is one. -/
def severity? (l : Level) : Option Severity :=
  Severity.all.find? fun s => decide (s.level = l)

end Level

/-- The text that stands for a severity. -/
def Severity.label (s : Severity) : String :=
  s.level.display

theorem Severity.label_inj {s t : Severity} (h : s.label = t.label) : s = t := by
  cases s <;> cases t <;> first | rfl | exact absurd h (by decide)

namespace Level

/-! ### The severity of a rank -/

theorem severity?_level (s : Severity) : s.level.severity? = some s := by
  cases s <;> decide

theorem severity?_eq_some_iff {l : Level} {s : Severity} : l.severity? = some s ↔ l = s.level := by
  constructor
  · intro h
    have hs := List.find?_some h
    exact (of_decide_eq_true hs).symm
  · rintro rfl
    exact severity?_level s

theorem severity?_eq_none_iff {l : Level} : l.severity? = none ↔ ∀ s : Severity, l ≠ s.level := by
  simp only [severity?, List.find?_eq_none, decide_eq_true_eq]
  exact ⟨fun h s hs => h s s.mem_all hs.symm, fun h s _ hs => h s hs.symm⟩

theorem toInt_rank_ne {l : Level} (h : l.severity? = none) (s : Severity) :
    l.rank.toInt ≠ s.rank.toInt :=
  fun hrank => severity?_eq_none_iff.1 h s (ext_iff_toInt.2 hrank)

/-! ### The ranks with a label -/

theorem label?_level (s : Severity) : s.level.label? = some s.label := by
  cases s <;> rfl

/-- A rank that no severity has is none of those that a label goes with. -/
theorem label?_of_severity?_eq_none {l : Level} (h : l.severity? = none) : l.label? = none := by
  have hne : ∀ s : Severity, l.rank.toInt ≠ s.rank.toInt := toInt_rank_ne h
  unfold label?
  split
  · next hrank => exact absurd hrank (hne .fatal)
  · next hrank => exact absurd hrank (hne .error)
  · next hrank => exact absurd hrank (hne .warning)
  · next hrank => exact absurd hrank (hne .info)
  · next hrank => exact absurd hrank (hne .verbose)
  · next hrank => exact absurd hrank (hne .verbose2)
  · next hrank => exact absurd hrank (hne .verbose3)
  · next hrank => exact absurd hrank (hne .debug)
  · rfl

theorem label?_eq_map_severity? (l : Level) : l.label? = l.severity?.map Severity.label := by
  cases h : l.severity? with
  | none => exact label?_of_severity?_eq_none h
  | some s =>
    rw [severity?_eq_some_iff.1 h]
    exact label?_level s

theorem isNamed_eq_isSome_severity? (l : Level) : l.isNamed = l.severity?.isSome := by
  rw [isNamed, label?_eq_map_severity?, Option.isSome_map]

theorem isNamed_eq_false_iff {l : Level} : l.isNamed = false ↔ l.severity? = none := by
  rw [isNamed_eq_isSome_severity?, Option.isSome_eq_false_iff, Option.isNone_iff_eq_none]

/-- A level with a label is the level of the severity that has it. -/
theorem exists_severity_of_label? {l : Level} {label : String} (h : l.label? = some label) :
    ∃ s : Severity, l = s.level ∧ s.label = label := by
  rw [label?_eq_map_severity?] at h
  obtain ⟨s, hs, hlabel⟩ := Option.map_eq_some_iff.1 h
  exact ⟨s, severity?_eq_some_iff.1 hs, hlabel⟩

theorem mem_named {l : Level} : l ∈ named ↔ ∃ s : Severity, l = s.level := by
  constructor
  · intro h
    simp only [named, List.mem_cons, List.not_mem_nil, or_false] at h
    rcases h with h | h | h | h | h | h | h | h
    all_goals exact ⟨_, h⟩
  · rintro ⟨s, rfl⟩
    cases s <;> decide

theorem isNamed_iff {l : Level} : l.isNamed = true ↔ ∃ s : Severity, l = s.level := by
  rw [isNamed_eq_isSome_severity?, Option.isSome_iff_exists]
  exact exists_congr fun s => severity?_eq_some_iff

@[simp] theorem display_level (s : Severity) : s.level.display = s.label := rfl

theorem display_of_isNamed_eq_false {l : Level} (h : l.isNamed = false) :
    l.display = unknownLabel := by
  rw [display, Option.isNone_iff_eq_none.1 (Option.isSome_eq_false_iff.1 h)]
  rfl

end Level

end LeveledLog
