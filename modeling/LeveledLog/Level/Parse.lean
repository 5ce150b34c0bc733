import LeveledLog.Level.Basic
import LeveledLog.Text.Blank
import LeveledLog.Text.Case
import LeveledLog.Text.Decimal

/-!
# Reading a level

A level is written as a decimal integer or as the name of a severity; the case of ASCII letters in a name and
the blanks around the text do not count.  Two severities have a second spelling.  A text that is all blank and
a text that is neither are different errors, and the second one quotes the text without its blanks.

* `map_find?_name_eq_some_iff`: looking up a name in a table;
* `read?_numeral`: an integer in range is the level of that rank;
* `parse_eq_ok_iff`, `parse_eq_empty_iff`, `parse_eq_unrecognized_iff`: which of the three answers a text has.
-/

namespace LeveledLog

/-! ### Names -/

/-- In a table that has no name twice, what is found under a name is what stands beside it. -/
theorem map_find?_name_eq_some_iff {α : Type} {table : List (String × α)}
    (hnodup : (table.map (·.1)).Nodup) {name : String} {a : α} :
    (table.find? fun entry => decide (entry.1 = name)).map (·.2) = some a ↔ (name, a) ∈ table := by
  induction table with
  | nil => exact iff_of_false (fun h => nomatch h) List.not_mem_nil
  | cons entry rest ih =>
    obtain ⟨key, value⟩ := entry
    obtain ⟨hkey, hrest⟩ := List.nodup_cons.1 hnodup
    rw [List.find?_cons, List.mem_cons, Prod.mk.injEq]
    by_cases hname : key = name
    · subst hname
      have hlater : (key, a) ∉ rest := fun h => hkey (List.mem_map_of_mem (f := (·.1)) h)
      simp [hlater, eq_comm]
    · have hother : name ≠ key := Ne.symm hname
      simp only [hname, decide_false, ih hrest, hother, false_and, false_or]

/-- The names of the severities in lower case; every severity has one, and some have two. -/
def Severity.spellings : List (String × Severity) :=
  [("fatal", .fatal), ("error", .error), ("warn", .warning), ("warning", .warning), ("info", .info),
    ("verbose", .verbose), ("verbose1", .verbose), ("verbose2", .verbose2), ("verbose3", .verbose3),
    ("debug", .debug)]

/-- The severity with a given name, in any mixture of ASCII cases. -/
def Severity.ofName? (name : String) : Option Severity :=
  (Severity.spellings.find? fun spelling => decide (spelling.1 = Text.lower name)).map (·.2)

namespace Level

/-! ### Errors -/

/-- Why a text is not a level. -/
inductive ParseError
  /-- It has no character that is not blank. -/
  | empty
  /-- Without its blanks it is this text, neither an integer in range nor a name. -/
  | unrecognized (text : String)
  deriving DecidableEq

/-- The sentence that reports an error. -/
def ParseError.message : ParseError → String
  | .empty => "message level is empty"
  | .unrecognized text => "unrecognized message level `" ++ text ++ "`"

/-! ### Reading -/

/-- The level that a text without blanks around it stands for: an integer first, else a name. -/
def read? (text : String) : Option Level :=
  match Text.Decimal.int32? text.toList with
  | some rank => some ⟨rank⟩
  | none => (Severity.ofName? text).map Severity.level

/-- The error for a text without blanks around it that is not a level. -/
def ParseError.refusal (text : String) : ParseError :=
  if text = "" then .empty else .unrecognized text

/-- The level that a text stands for, whatever blanks are around it. -/
def parse (text : String) : Except ParseError Level :=
  match read? (Text.trim text) with
  | some l => .ok l
  | none => .error (.refusal (Text.trim text))

/-! ### The three answers -/

theorem read?_numeral {text : String} {rank : Int32}
    (h : Text.Decimal.int32? text.toList = some rank) : read? text = some ⟨rank⟩ := by
  simp [read?, h]

theorem parse_eq_ok_iff {text : String} {l : Level} :
    parse text = .ok l ↔ read? (Text.trim text) = some l := by
  unfold parse
  cases read? (Text.trim text) <;> simp

theorem parse_eq_error_iff {text : String} {e : ParseError} :
    parse text = .error e ↔ read? (Text.trim text) = none ∧ e = .refusal (Text.trim text) := by
  unfold parse
  cases read? (Text.trim text) with
  | some l => simp
  | none => simp [eq_comm]

/-- A text with no character at all is not a level. -/
theorem read?_empty : read? "" = none := by
  decide

theorem parse_eq_empty_iff {text : String} :
    parse text = .error .empty ↔ Text.trim text = "" := by
  rw [parse_eq_error_iff, ParseError.refusal]
  by_cases h : Text.trim text = "" <;> simp [h, read?_empty]

theorem parse_eq_unrecognized_iff {text quoted : String} :
    parse text = .error (.unrecognized quoted) ↔
      Text.trim text = quoted ∧ quoted ≠ "" ∧ read? quoted = none := by
  rw [parse_eq_error_iff, ParseError.refusal]
  by_cases h : Text.trim text = ""
  · simp only [h, if_true, reduceCtorEq, and_false, false_iff]
    rintro ⟨rfl, hq, -⟩
    exact hq rfl
  · simp only [h, if_false, ParseError.unrecognized.injEq]
    constructor
    · rintro ⟨hr, rfl⟩
      exact ⟨rfl, h, hr⟩
    · rintro ⟨rfl, -, hr⟩
      exact ⟨hr, rfl⟩

end Level

end LeveledLog
