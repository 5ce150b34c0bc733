import LeveledLog.Logger.Session
import LeveledLog.Program.Run

/-!
# Settings

Of all that is asked of a logger, two things change it: a new threshold and the order to stop coloring.  What a
logger is after a run depends on these settings alone, and of the thresholds on the latest one.

* `Logger.settled_append`: settings made in two goes are settings made in a row;
* `Logger.state_perform`: an action changes a logger by its setting, if it has one;
* `Program.logger_perform`, `Program.logger_last_run`: so does a step of a program with the shared logger, and
  so does a run that no step ends.
-/

namespace LeveledLog

namespace Logger

/-! ### Settings and what they leave -/

/-- What changes a logger. -/
inductive Setting
  | threshold (level : Level)
  | disableColor
  deriving DecidableEq

/-- The threshold that a setting sets, if it sets one. -/
def Setting.threshold? : Setting → Option Level
  | .threshold level => some level
  | .disableColor => none

/-- The latest threshold that some settings set, or the first one if they set none. -/
def Setting.latest (first : Level) (settings : List Setting) : Level :=
  (settings.filterMap Setting.threshold?).getLast?.getD first

/-- The logger after some settings: it has the latest threshold, and it colors labels if it did and no setting
disabled that. -/
def settled (log : Logger) (settings : List Setting) : Logger :=
  ⟨Setting.latest log.threshold settings, log.colored && decide (.disableColor ∉ settings)⟩

@[simp] theorem settled_nil (log : Logger) : log.settled [] = log := by
  simp [settled, Setting.latest]

theorem Setting.latest_append (first : Level) (xs ys : List Setting) :
    latest first (xs ++ ys) = latest (latest first xs) ys := by
  simp only [latest, List.filterMap_append, List.getLast?_append, Option.getD_or]

theorem settled_append (log : Logger) (xs ys : List Setting) :
    log.settled (xs ++ ys) = (log.settled xs).settled ys := by
  have hcolor : decide (Setting.disableColor ∉ xs ++ ys) =
      (decide (Setting.disableColor ∉ xs) && decide (Setting.disableColor ∉ ys)) := by
    simp only [List.mem_append, not_or, Bool.decide_and]
  simp only [settled, Setting.latest_append, hcolor, Bool.and_assoc]

/-! ### Actions -/

/-- The setting that an action makes, if it makes one. -/
def Action.setting? : Action → Option Setting
  | .setThreshold threshold => some (.threshold threshold)
  | .disableColor => some .disableColor
  | _ => none

theorem state_perform (identity : Identity) (log : Logger) (action : Action) :
    (log.perform identity action).2 = log.settled action.setting?.toList := by
  cases action with
  | setThreshold threshold =>
    show log.setThreshold threshold = log.settled [.threshold threshold]
    simp [setThreshold, settled, Setting.latest, Setting.threshold?]
  | disableColor =>
    show log.disableColor = log.settled [.disableColor]
    simp [disableColor, settled, Setting.latest, Setting.threshold?]
  | _ => exact (settled_nil log).symm

end Logger

namespace Program

/-! ### Steps of a program -/

/-- The setting that a step of a program makes on the shared logger, if it makes one. -/
def Step.setting? : Step → Option Logger.Setting
  | .setThreshold level => some (.threshold level)
  | .disableColor => some .disableColor
  | _ => none

/-- A log statement leaves the shared logger as it is, whether it writes a line or not. -/
theorem logger_log (p : Program) (level : Level) (path : String) (message : Message) :
    (p.log level path message.argument).value.logger = p.logger := by
  rw [value_log, logger_emit]

theorem logger_perform (p : Program) (s : Step) :
    (p.perform s).2.logger = p.logger.settled s.setting?.toList := by
  cases s with
  | setThreshold level => exact Logger.state_perform p.identity p.logger (.setThreshold level)
  | disableColor => exact Logger.state_perform p.identity p.logger .disableColor
  | log statement path message =>
    show (p.log statement.level path message.argument).value.logger = p.logger.settled []
    rw [logger_log, Logger.settled_nil]
  | _ => exact (Logger.settled_nil p.logger).symm

/-- The shared logger at the end of a run that carried out all its steps. -/
theorem logger_last_run (p : Program) (steps : List Step) (h : ∀ s ∈ steps, s.ends = false) :
    (p.run steps).last.logger = p.logger.settled (steps.filterMap Step.setting?) := by
  induction steps generalizing p with
  | nil => exact (Logger.settled_nil p.logger).symm
  | cons s rest ih =>
    obtain ⟨hs, hrest⟩ := List.forall_mem_cons.1 h
    have hcons : (s :: rest).filterMap Step.setting? =
        s.setting?.toList ++ rest.filterMap Step.setting? := by
      cases hset : s.setting? <;> simp [hset]
    obtain ⟨answer, hanswer⟩ := answered_of_not_ends hs p
    rw [run_cons_of_answered hanswer, hcons, Logger.settled_append, ← logger_perform]
    exact ih _ hrest

end Program

end LeveledLog
