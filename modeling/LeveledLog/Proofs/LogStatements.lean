import LeveledLog.Proofs.Emission
import LeveledLog.Program.Run

/-!
# Log statements and their levels

Every severity has a log statement of its own, which is known by a name.  The levels at which log statements log are
told here row by row, beside the function that gives them, and so are the ranks that go with the names.  A log statement
and a direct emission are the two kinds of steps that emit a message.

* `Statement.logsAt_iff`: the level that a log statement logs at is that of its row;
* `Statement.ofName?_eq_some_iff`: a log statement is found under its name;
* `Statement.mem_nameRanks_iff`: the names of log statements, with the ranks that they log at;
* `Step.emission?_log`: what a log statement emits.
-/

namespace LeveledLog.Program

namespace Statement

/-! ### Levels -/

/-- The level that a log statement logs at: the one of its severity, or the one that it is given. -/
inductive LogsAt : Statement → Level → Prop
  | fatal : LogsAt (.ofSeverity .fatal) ⟨-4⟩
  | error : LogsAt (.ofSeverity .error) ⟨-3⟩
  | warning : LogsAt (.ofSeverity .warning) ⟨-2⟩
  | info : LogsAt (.ofSeverity .info) ⟨1⟩
  | verbose : LogsAt (.ofSeverity .verbose) ⟨2⟩
  | verbose2 : LogsAt (.ofSeverity .verbose2) ⟨3⟩
  | verbose3 : LogsAt (.ofSeverity .verbose3) ⟨4⟩
  | debug : LogsAt (.ofSeverity .debug) ⟨5⟩
  | ofLevel (level : Level) : LogsAt (.ofLevel level) level

theorem logsAt_iff {statement : Statement} {level : Level} :
    statement.LogsAt level ↔ statement.level = level := by
  constructor
  · intro h
    cases h <;> rfl
  · rintro rfl
    cases statement with
    | ofLevel level => exact .ofLevel level
    | ofSeverity severity => cases severity <;> constructor

/-! ### Names -/

/-- The names of the log statements for severities, each with the rank that it logs at. -/
def nameRanks : List (String × Int32) :=
  [("fatalf", -4), ("errorf", -3), ("warningf", -2), ("infof", 1), ("verbosef", 2), ("verbose2f", 3),
    ("verbose3f", 4), ("debugf", 5)]

theorem nameRanks_eq_map :
    nameRanks = named.map fun entry => (entry.1, entry.2.level.rank) := by
  rfl

theorem ofName?_eq_some_iff {name : String} {statement : Statement} :
    ofName? name = some statement ↔ (name, statement) ∈ named :=
  map_find?_name_eq_some_iff (by decide)

theorem mem_nameRanks_iff {name : String} {rank : Int32} :
    (name, rank) ∈ nameRanks ↔
      ∃ statement, ofName? name = some statement ∧ statement.LogsAt ⟨rank⟩ := by
  rw [nameRanks_eq_map, List.mem_map]
  constructor
  · intro h
    obtain ⟨⟨name', statement⟩, hentry, heq⟩ := h
    obtain ⟨rfl, rfl⟩ := Prod.mk.inj heq
    exact ⟨statement, ofName?_eq_some_iff.2 hentry, logsAt_iff.2 rfl⟩
  · intro h
    obtain ⟨statement, hname, hlevel⟩ := h
    refine ⟨(name, statement), ofName?_eq_some_iff.1 hname, ?_⟩
    rw [logsAt_iff.1 hlevel]

end Statement

/-! ### Steps that emit a message -/

/-- What a step of a program emits, if it emits a message: a log statement does it from where its marker leads to. -/
def Step.emission? : Step → Option Emission
  | .emit level caller message => some ⟨level, caller, message⟩
  | .log (.ofSeverity severity) path message => some ⟨severity.level, .ofMarkerPath path, message⟩
  | .log (.ofLevel level) path message => some ⟨level, .ofMarkerPath path, message⟩
  | _ => none

theorem Step.emission?_log (statement : Statement) (path : String) (message : Message) :
    emission? (.log statement path message) =
      some ⟨statement.level, .ofMarkerPath path, message⟩ := by
  cases statement <;> rfl

end LeveledLog.Program
