import LeveledLog.Proofs.Settings

/-!
# The state of loggers in a session

In a session the steps on several loggers may come in any order.  Each logger is told by the settings that were
made on it so far: reads, emissions of any fate and the steps on other loggers leave no trace.

* `getElem?_after`: the logger at a position after some steps;
* `getElem?_run`: a run answers each step in the state that the steps before it leave;
* `state_law`: state and answer at every step of every session, and what they do not depend on.
-/

namespace LeveledLog.Session

open Logger (Setting settled_nil settled_append)

/-! ### Settings on one logger -/

/-- The settings that steps make on the logger at a position, in order. -/
def settingsOn (i : Nat) (steps : List Step) : List Setting :=
  steps.filterMap fun s => if s.target = i then s.action.setting? else none

/-- The steps that make a setting on the logger at a position. -/
def settingStepsOn (i : Nat) (steps : List Step) : List Step :=
  steps.filter fun s => decide (s.target = i) && s.action.setting?.isSome

theorem settingsOn_cons (i : Nat) (s : Step) (rest : List Step) :
    settingsOn i (s :: rest) = settingsOn i [s] ++ settingsOn i rest := by
  rw [← List.singleton_append]
  exact List.filterMap_append

theorem settingsOn_settingStepsOn (i : Nat) (steps : List Step) :
    settingsOn i (settingStepsOn i steps) = settingsOn i steps := by
  rw [settingsOn, settingStepsOn, List.filterMap_filter, settingsOn]
  congr 1
  funext s
  by_cases htarget : s.target = i
  · cases s.action.setting? <;> simp [htarget]
  · simp [htarget]

theorem settingsOn_self (s : Step) : settingsOn s.target [s] = s.action.setting?.toList := by
  cases hset : s.action.setting? <;> simp [settingsOn, hset]

theorem settingsOn_of_ne {i : Nat} {s : Step} (h : s.target ≠ i) : settingsOn i [s] = [] := by
  simp [settingsOn, h]

/-! ### Loggers after some steps -/

/-- One step changes the logger that it addresses, by its setting, and no other. -/
theorem getElem?_step (identity : Identity) (loggers : List Logger) (s : Step) (i : Nat) :
    (step identity loggers s).2[i]? =
      loggers[i]?.map fun log => log.settled (settingsOn i [s]) := by
  by_cases hi : s.target = i
  · subst hi
    cases h : loggers[s.target]? with
    | none => rw [step_of_getElem?_eq_none h, h, Option.map_none]
    | some log =>
      have hlt : s.target < loggers.length := (List.getElem?_eq_some_iff.1 h).1
      rw [step_of_getElem?_eq_some h, settingsOn_self, Option.map_some, ← Logger.state_perform identity]
      exact List.getElem?_set_self hlt
  · have hsame : (step identity loggers s).2[i]? = loggers[i]? := by
      cases h : loggers[s.target]? with
      | none => rw [step_of_getElem?_eq_none h]
      | some log =>
        rw [step_of_getElem?_eq_some h]
        exact List.getElem?_set_ne hi
    rw [hsame, settingsOn_of_ne hi]
    simp only [settled_nil, Option.map_id']

/-- The loggers after some steps. -/
def after (identity : Identity) (loggers : List Logger) (steps : List Step) : List Logger :=
  steps.foldl (fun loggers s => (step identity loggers s).2) loggers

theorem getElem?_after (identity : Identity) (loggers : List Logger) (steps : List Step) (i : Nat) :
    (after identity loggers steps)[i]? =
      loggers[i]?.map fun log => log.settled (settingsOn i steps) := by
  induction steps generalizing loggers with
  | nil =>
    show loggers[i]? = loggers[i]?.map fun log => log.settled []
    simp only [settled_nil, Option.map_id']
  | cons s rest ih =>
    show (after identity (step identity loggers s).2 rest)[i]? = _
    rw [ih, getElem?_step, Option.map_map]
    congr 1
    funext log
    show (log.settled (settingsOn i [s])).settled (settingsOn i rest) = _
    rw [settingsOn_cons i s rest, settled_append]

theorem getElem?_run (identity : Identity) (loggers : List Logger) (before : List Step) (s : Step)
    (rest : List Step) :
    (run identity loggers (before ++ s :: rest))[before.length]? =
      some (step identity (after identity loggers before) s) := by
  induction before generalizing loggers with
  | nil => rfl
  | cons t before ih =>
    show (run identity (step identity loggers t).2 (before ++ s :: rest))[before.length]? = _
    exact ih (step identity loggers t).2

/-! ### The law of a session -/

/-- How a logger of a session is made. -/
inductive Origin
  | standard
  | threshold (level : Level)
  | environment (value : Environment.Value)

/-- The logger of an origin, before any step. -/
def Origin.logger : Origin → Logger
  | .standard => default
  | .threshold level => .ofThreshold level
  | .environment value => .ofEnvironment value

theorem Origin.colored_logger (o : Origin) : o.logger.colored = true := by
  cases o <;> rfl

/-- A fresh logger with a threshold, and with colors on or off. -/
def fresh (threshold : Level) (colored : Bool) : Logger :=
  if colored then .ofThreshold threshold else (Logger.ofThreshold threshold).disableColor

theorem fresh_eq (log : Logger) : fresh log.threshold log.colored = log := by
  obtain ⟨threshold, colored⟩ := log
  cases colored <;> rfl

/-- What the settings among some steps leave the logger at a position with: the latest threshold that was set on
it, or its first one, and colors on unless they were disabled on it. -/
def stateAt (origins : List Origin) (i : Nat) (steps : List Step) : Option Logger :=
  origins[i]?.map fun o =>
    ⟨Setting.latest o.logger.threshold (settingsOn i steps),
      decide (.disableColor ∉ settingsOn i steps)⟩

/-- The answer to a step of a run. -/
def answerAt (identity : Identity) (origins : List Origin) (before : List Step) (s : Step)
    (rest : List Step) : Option (Option Logger.Answer) :=
  (run identity (origins.map Origin.logger) (before ++ s :: rest))[before.length]?.map Prod.fst

theorem getElem?_after_origins (identity : Identity) (origins : List Origin) (steps : List Step)
    (i : Nat) :
    (after identity (origins.map Origin.logger) steps)[i]? = stateAt origins i steps := by
  rw [getElem?_after, List.getElem?_map, Option.map_map, stateAt]
  congr 1
  funext o
  show o.logger.settled (settingsOn i steps) = _
  rw [Logger.settled, o.colored_logger, Bool.true_and]

theorem after_concat (identity : Identity) (loggers : List Logger) (before : List Step) (s : Step) :
    after identity loggers (before ++ [s]) = (step identity (after identity loggers before) s).2 := by
  rw [after, List.foldl_append]
  rfl

/-- The answer to a step is the one that a logger in the state of its target gives. -/
theorem fst_step (identity : Identity) (loggers : List Logger) (s : Step) :
    (step identity loggers s).1 =
      loggers[s.target]?.map fun log => (log.perform identity s.action).1 := by
  cases h : loggers[s.target]? with
  | none => rw [step_of_getElem?_eq_none h, Option.map_none]
  | some log => rw [step_of_getElem?_eq_some h, Option.map_some]

theorem answerAt_eq (identity : Identity) (origins : List Origin) (before : List Step) (s : Step)
    (rest : List Step) :
    answerAt identity origins before s rest =
      some ((stateAt origins s.target before).map fun log => (log.perform identity s.action).1) := by
  rw [answerAt, getElem?_run, Option.map_some, fst_step, getElem?_after_origins]

/-- After every step of a session each logger has the latest threshold that was set on it, or its first one, and
colors labels unless that was disabled on it.  The answer to a step is the one that a fresh logger in this state
gives, so two sessions that bring a logger to the same state get the same answer from it, and all steps but the
settings on that logger can be left out. -/
theorem state_law (identity : Identity) (origins : List Origin) (before : List Step) (s : Step)
    (rest : List Step) :
    (∃ loggers : List Logger,
        (run identity (origins.map Origin.logger) (before ++ s :: rest))[before.length]? =
          some ((stateAt origins s.target before).map fun log =>
            ((fresh log.threshold log.colored).perform identity s.action).1, loggers) ∧
        ∀ i, loggers[i]? = stateAt origins i (before ++ [s])) ∧
      (∀ (origins' : List Origin) (before' rest' : List Step),
        stateAt origins' s.target before' = stateAt origins s.target before →
          answerAt identity origins' before' s rest' = answerAt identity origins before s rest) ∧
      ∀ rest' : List Step,
        answerAt identity origins (settingStepsOn s.target before) s rest' =
          answerAt identity origins before s rest := by
  refine ⟨⟨after identity (origins.map Origin.logger) (before ++ [s]), ?_, ?_⟩, ?_, ?_⟩
  · rw [getElem?_run, after_concat]
    congr 1
    refine Prod.ext ?_ rfl
    show (step identity (after identity (origins.map Origin.logger) before) s).1 = _
    rw [fst_step, getElem?_after_origins]
    simp only [fresh_eq]
  · intro i
    exact getElem?_after_origins identity origins (before ++ [s]) i
  · intro origins' before' rest' hstate
    rw [answerAt_eq, answerAt_eq, hstate]
  · intro rest'
    have hstate : stateAt origins s.target (settingStepsOn s.target before) =
        stateAt origins s.target before := by
      rw [stateAt, stateAt, settingsOn_settingStepsOn]
    rw [answerAt_eq, answerAt_eq, hstate]

/-- Two loggers made in different ways, and brought to the same state by different steps. -/
theorem state_law_of_two_sessions :
    stateAt [.standard, .threshold ⟨7⟩] 1
          [⟨1, .disableColor⟩, ⟨0, .setThreshold ⟨-9⟩⟩, ⟨1, .setThreshold ⟨3⟩⟩, ⟨1, .setThreshold ⟨-3⟩⟩] =
        stateAt [.environment none, .standard] 1
          [⟨1, .setThreshold ⟨-3⟩⟩, ⟨1, .writeTo ⟨-4⟩ default [.fault] (some 2)⟩, ⟨1, .disableColor⟩] ∧
      answerAt ⟨0, 83⟩ [.standard, .threshold ⟨7⟩]
          [⟨1, .disableColor⟩, ⟨0, .setThreshold ⟨-9⟩⟩, ⟨1, .setThreshold ⟨3⟩⟩, ⟨1, .setThreshold ⟨-3⟩⟩]
          ⟨1, .header ⟨-3⟩ default⟩ [] =
        answerAt ⟨0, 83⟩ [.environment none, .standard]
          [⟨1, .setThreshold ⟨-3⟩⟩, ⟨1, .writeTo ⟨-4⟩ default [.fault] (some 2)⟩, ⟨1, .disableColor⟩]
          ⟨1, .header ⟨-3⟩ default⟩ [⟨0, .stream⟩] :=
  ⟨by decide, (state_law ⟨0, 83⟩ _ _ ⟨1, .header ⟨-3⟩ default⟩ _).2.1 _ _ _ (by decide)⟩

end LeveledLog.Session
