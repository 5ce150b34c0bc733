import LeveledLog.Proofs.LevelGrammar
import LeveledLog.Proofs.Settings

/-!
# Handing the threshold on

A program hands its threshold to a process that it starts as an entry of the environment, and the new process
makes its own logger from that.  The writing of the entry and the reading of its value fit together, so a
threshold reaches the end of a chain of processes of any length.

* `Level.parse_text`: the numeral of a rank is read as that rank;
* `Program.logger_child`: a new process starts with the threshold of the one that started it;
* `Program.logger_descend`: along a chain the latest threshold set in any process counts;
* `Program.threshold_handOff`: the entry, and the chain.
-/

namespace LeveledLog

open Logger (Setting)

/-! ### Reading what was written -/

/-- The characters of a numeral are not blank. -/
theorem Text.Numeral.bare {cs : List Char} {n : Int} (h : Numeral cs n) : Bare cs := by
  refine bare_of_forall fun c hc => ?_
  obtain ⟨hlo, hhi⟩ := h.between c hc
  have hlo43 : 43 ≤ c.toNat := hlo
  have hhi57 : c.toNat ≤ 57 := hhi
  exact isBlank_of_visible (by omega) (by omega)

theorem Text.Decimal.numeral_text (n : Int32) : Numeral (text n).toList n.toInt :=
  int32?_eq_some_iff_numeral.1 (int32?_text n)

/-- The numeral of a 32-bit integer is read as the level of that rank. -/
theorem Level.parse_text (n : Int32) : parse (Text.Decimal.text n) = .ok ⟨n⟩ := by
  have htrim : Text.trim (Text.Decimal.text n) = Text.Decimal.text n := by
    rw [← String.toList_inj, Text.toList_trim,
      Text.trimmed_of_bare (Text.Decimal.numeral_text n).bare]
  rw [parse_eq_ok_iff, htrim]
  exact read?_numeral (Text.Decimal.int32?_text n)

/-- No numeral has the character that ends the name in an entry. -/
theorem Text.Decimal.equals_not_mem_text (n : Int32) : '=' ∉ (text n).toList := by
  intro h
  exact absurd ((numeral_text n).between '=' h).2 (by decide)

namespace Environment

/-- The value of the variable in a process that gets an entry: the entry's, if it is one for this variable. -/
def Value.withEntry (value : Value) (entry : String) : Value :=
  if (splitEntry entry).1 = variableName then .ofText (splitEntry entry).2 else value

/-- A threshold that is handed on as an entry arrives, whatever value the variable had. -/
theorem thresholdOf_withEntry (value : Value) (threshold : Level) :
    thresholdOf (value.withEntry (entry threshold)) = threshold := by
  rw [Value.withEntry, splitEntry_entry, if_pos rfl]
  exact thresholdOf_ofText (Level.parse_text threshold.rank)

end Environment

/-! ### Chains of processes -/

namespace Program

/-- The process that a program starts, with the entry of its threshold in the environment. -/
def child (p : Program) (identity : Identity) : Program :=
  start identity (p.environment.withEntry p.logger.environmentEntry)

/-- What a process does before it starts the next one, and who that is. -/
structure Launch where
  steps : List Step
  identity : Identity

/-- The process at the end of a chain: each one carries out its steps and starts the next. -/
def descend (p : Program) : List Launch → Program
  | [] => p
  | l :: rest => ((p.run l.steps).last.child l.identity).descend rest

/-- All settings that are made along a chain, in order. -/
def chainSettings (chain : List Launch) : List Setting :=
  chain.flatMap fun l => l.steps.filterMap Step.setting?

theorem logger_child (p : Program) (identity : Identity) :
    (p.child identity).logger = .ofThreshold p.logger.threshold := by
  rw [child, logger_start, Logger.ofEnvironment, Logger.environmentEntry,
    Environment.thresholdOf_withEntry]

/-- The threshold at the end of a run, from where the program had it at the start. -/
theorem threshold_last_run (p : Program) (steps : List Step) (h : ∀ s ∈ steps, s.ends = false) :
    (p.run steps).last.logger.threshold =
      Setting.latest p.logger.threshold (steps.filterMap Step.setting?) := by
  rw [logger_last_run p steps h]
  rfl

theorem logger_descend {p : Program} {threshold : Level} (hp : p.logger = .ofThreshold threshold)
    (chain : List Launch) (h : ∀ l ∈ chain, ∀ s ∈ l.steps, s.ends = false) :
    (p.descend chain).logger = .ofThreshold (Setting.latest threshold (chainSettings chain)) := by
  induction chain generalizing p threshold with
  | nil => exact hp
  | cons l rest ih =>
    have hl : ∀ s ∈ l.steps, s.ends = false := h l List.mem_cons_self
    have hrest : ∀ k ∈ rest, ∀ s ∈ k.steps, s.ends = false := fun k hk =>
      h k (List.mem_cons_of_mem l hk)
    have hthreshold : (p.run l.steps).last.logger.threshold =
        Setting.latest threshold (l.steps.filterMap Step.setting?) := by
      rw [threshold_last_run p l.steps hl, hp]
      rfl
    have hcons : chainSettings (l :: rest) =
        l.steps.filterMap Step.setting? ++ chainSettings rest := List.flatMap_cons
    -- the next process starts with this threshold, so it is the first one for the rest of the chain
    rw [hcons, Setting.latest_append, ← hthreshold]
    exact ih (logger_child _ l.identity) hrest

theorem descend_append (p : Program) (chain chain' : List Launch) :
    p.descend (chain ++ chain') = (p.descend chain).descend chain' := by
  induction chain generalizing p with
  | nil => rfl
  | cons l rest ih => exact ih _

/-- An entry divides at its first `=` into the name of the variable and a value without another one, which is read
as the threshold that was written.  So in a chain of processes that no step ends, each hands its threshold on as it
is, colors are on again in the next one, and the threshold is the latest one set anywhere before, or else the one
of the first environment. -/
theorem threshold_handOff :
    (∀ n : Int32, ∃ value : String,
      Environment.entry ⟨n⟩ = "SINGULARITY_MESSAGELEVEL" ++ "=" ++ value ∧ '=' ∉ value.toList ∧
        Environment.splitEntry (Environment.entry ⟨n⟩) = ("SINGULARITY_MESSAGELEVEL", value) ∧
        Level.parse value = .ok ⟨n⟩) ∧
      ∀ (identity : Identity) (value : Environment.Value) (chain : List Launch) (l : Launch),
        (∀ k ∈ chain ++ [l], ∀ s ∈ k.steps, s.ends = false) →
          let parent := (((start identity value).descend chain).run l.steps).last
          let child := (start identity value).descend (chain ++ [l])
          (parent.perform .environmentEntry).1 = .answered (.text parent.logger.environmentEntry) ∧
            child = start l.identity (parent.environment.withEntry parent.logger.environmentEntry) ∧
            child.logger.threshold = parent.logger.threshold ∧
            child.logger.colored = true ∧
            parent.logger.threshold =
              Setting.latest (Environment.thresholdOf value) (chainSettings (chain ++ [l])) := by
  refine ⟨fun n => ⟨Text.Decimal.text n, rfl, Text.Decimal.equals_not_mem_text n,
    Environment.splitEntry_entry ⟨n⟩, Level.parse_text n⟩, ?_⟩
  intro identity value chain l h parent child
  have hchild : child = parent.child l.identity := descend_append _ chain [l]
  have hlogger : child.logger = .ofThreshold parent.logger.threshold := by
    rw [hchild, logger_child]
  have hend : child.logger = .ofThreshold
      (Setting.latest (Environment.thresholdOf value) (chainSettings (chain ++ [l]))) :=
    logger_descend rfl (chain ++ [l]) h
  refine ⟨rfl, hchild, ?_, ?_, ?_⟩
  · rw [hlogger]
    rfl
  · rw [hlogger]
    rfl
  · rw [hlogger] at hend
    exact congrArg Logger.threshold hend

/-- The lowest threshold goes through a process that writes an unfinished message, and colors come back. -/
theorem threshold_handOff_of_two_processes :
    (∀ k ∈ [⟨[.setThreshold ⟨3⟩, .setThreshold ⟨-2147483648⟩, .disableColor], ⟨0, 84⟩⟩] ++
        [(⟨[.emit ⟨-2147483648⟩ default [.text "on", .fault], .stream], ⟨0, 85⟩⟩ : Launch)],
      ∀ s ∈ k.steps, s.ends = false) ∧
      ((start ⟨0, 83⟩ (some [0xFF])).descend
        ([⟨[.setThreshold ⟨3⟩, .setThreshold ⟨-2147483648⟩, .disableColor], ⟨0, 84⟩⟩] ++
          [⟨[.emit ⟨-2147483648⟩ default [.text "on", .fault], .stream], ⟨0, 85⟩⟩])).logger =
        ⟨⟨-2147483648⟩, true⟩ := by
  have hquiet : ∀ k ∈ [⟨[.setThreshold ⟨3⟩, .setThreshold ⟨-2147483648⟩, .disableColor], ⟨0, 84⟩⟩] ++
        [(⟨[.emit ⟨-2147483648⟩ default [.text "on", .fault], .stream], ⟨0, 85⟩⟩ : Launch)],
      ∀ s ∈ k.steps, s.ends = false := by decide
  obtain ⟨-, -, hsame, hcolor, hlatest⟩ := threshold_handOff.2 ⟨0, 83⟩ (some [0xFF]) _ _ hquiet
  exact ⟨hquiet, congrArg₂ Logger.mk (hsame.trans hlatest) hcolor⟩

end Program

end LeveledLog
