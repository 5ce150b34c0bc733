import LeveledLog.Level.Parse
import LeveledLog.Text.Utf8

/-!
# The environment variable of the threshold

A process takes its first threshold from an environment variable and hands its current one to a child process
as an entry, the variable's name and value with `=` between them.  The value of a variable is bytes; without
a value that is a text and a level, the threshold is the default one.

* `parseRank_of_ok`, `parseRank_of_error`: a text has the rank of its level, or the same error;
* `thresholdOf_ofText`: a value that is a level's text gives that level;
* `splitEntry_entry`: an entry splits into the name and the numeral of the threshold.
-/

namespace LeveledLog.Environment

/-- The value of an environment variable: its bytes, or nothing while it is not set. -/
abbrev Value := Option Bytes

/-- The variable that holds the threshold. -/
def variableName : String := "SINGULARITY_MESSAGELEVEL"

/-- The threshold without a usable value. -/
def defaultThreshold : Level :=
  Severity.info.level

/-- The value that a text gives to a variable. -/
def Value.ofText (text : String) : Value :=
  some (Text.utf8 text)

/-- The text of a value that is set and is one. -/
def Value.text? (value : Value) : Option String :=
  value.bind Text.ofUtf8?

/-- The rank of the level that a text stands for, or why it stands for none. -/
def parseRank (text : String) : Except Level.ParseError Int32 :=
  (Level.parse text).map Level.rank

/-- The threshold that a value stands for: the level with the rank of its text, else the default one. -/
def thresholdOf (value : Value) : Level :=
  match value.text?.map parseRank with
  | some (.ok rank) => ⟨rank⟩
  | _ => defaultThreshold

/-- The entry that hands a threshold to a child process. -/
def entry (threshold : Level) : String :=
  variableName ++ "=" ++ Text.Decimal.text threshold.rank

/-- The name and the value of an entry, which the first `=` divides. -/
def splitEntry (text : String) : String × String :=
  (String.ofList (text.toList.takeWhile (· ≠ '=')),
    String.ofList ((text.toList.dropWhile (· ≠ '=')).drop 1))

@[simp] theorem Value.text?_ofText (text : String) : (Value.ofText text).text? = some text :=
  Text.ofUtf8?_eq_some_iff.2 rfl

theorem parseRank_of_ok {text : String} {l : Level} (h : Level.parse text = .ok l) :
    parseRank text = .ok l.rank := by
  rw [parseRank, h]
  rfl

theorem parseRank_of_error {text : String} {e : Level.ParseError} (h : Level.parse text = .error e) :
    parseRank text = .error e := by
  rw [parseRank, h]
  rfl

theorem thresholdOf_ofText {text : String} {l : Level} (h : Level.parse text = .ok l) :
    thresholdOf (Value.ofText text) = l := by
  rw [thresholdOf, Value.text?_ofText, Option.map_some, parseRank_of_ok h]

/-- The first `=` of an entry is the one after the name. -/
theorem splitEntry_entry (threshold : Level) :
    splitEntry (entry threshold) = (variableName, Text.Decimal.text threshold.rank) := by
  have hname : ∀ c ∈ variableName.toList, (decide (c ≠ '=')) = true :=
    List.all_eq_true.1 (by rfl : (variableName.toList.all fun c => decide (c ≠ '=')) = true)
  have hlist : (entry threshold).toList =
      variableName.toList ++ '=' :: (Text.Decimal.text threshold.rank).toList := by
    simp [entry, String.toList_append]
  simp only [splitEntry, hlist, List.takeWhile_append_of_pos hname,
    List.dropWhile_append_of_pos hname]
  simp

end LeveledLog.Environment
