import LeveledLog.Environment
import LeveledLog.Proofs.Trimming
import Mathlib

/-!
# The grammar of a level

Which texts stand for a level, told as a grammar beside the reader.  Without its outer blanks such a text is a
numeral whose value is a 32-bit integer, or one of ten names.

* `Decimal.int?_eq_some_iff`: the numerals that are read are those of the grammar, and for their place values;
* `Level.named_iff`: so are the names;
* `Level.not_numeral_and_named`: no text is both;
* `Environment.parseRank_eq_ok_iff`, `Environment.parseRank_eq_error_iff`: reading a rank is reading a level;
* `Level.parse_grammar`: a text is read as what it stands for, and is refused exactly if it stands for nothing.
-/

namespace LeveledLog

/-! ### Numerals -/

namespace Text

/-- One or more ASCII digits. -/
def DigitString (ds : List Char) : Prop :=
  ds ≠ [] ∧ ∀ d ∈ ds, '0' ≤ d ∧ d ≤ '9'

/-- The value of a digit string in base ten, whose last digit is the lowest one. -/
def placeValue (ds : List Char) : Nat :=
  Nat.ofDigits 10 (ds.map fun d => d.toNat - '0'.toNat).reverse

/-- A list that is a numeral, with its value: a digit string with a sign in front of it or without one. -/
inductive Numeral : List Char → Int → Prop
  | plain {ds : List Char} (h : DigitString ds) : Numeral ds (placeValue ds)
  | plus {ds : List Char} (h : DigitString ds) : Numeral ('+' :: ds) (placeValue ds)
  | minus {ds : List Char} (h : DigitString ds) : Numeral ('-' :: ds) (-placeValue ds)

namespace Decimal

theorem isDigit_iff {d : Char} : d.isDigit = true ↔ '0' ≤ d ∧ d ≤ '9' := by
  simp only [Char.isDigit, Bool.and_eq_true, decide_eq_true_eq, ge_iff_le, Char.le_def]

/-- Reading digits from the left gives their place value. -/
theorem ofDigitChars_eq_placeValue (ds : List Char) :
    Nat.ofDigitChars 10 ds 0 = placeValue ds := by
  induction ds with
  | nil => rfl
  | cons d ds ih =>
    have hinit : 10 * 0 + (d.toNat - '0'.toNat) = d.toNat - '0'.toNat := by omega
    rw [Nat.ofDigitChars_cons, hinit, Nat.ofDigitChars_eq_ofDigitChars_zero, ih, placeValue,
      placeValue, List.map_cons, Nat.ofDigits_reverse_cons, List.length_map, Nat.add_comm]

theorem nat?_iff_digitString {ds : List Char} {n : Nat} :
    nat? ds = some n ↔ DigitString ds ∧ placeValue ds = n := by
  simp only [nat?_eq_some_iff, isDigit_iff, ofDigitChars_eq_placeValue, DigitString, and_assoc]

theorem map_nat?_eq_some_iff {ds : List Char} {f : Nat → Int} {n : Int} :
    (nat? ds).map f = some n ↔ DigitString ds ∧ f (placeValue ds) = n := by
  simp only [Option.map_eq_some_iff, nat?_iff_digitString]
  constructor
  · rintro ⟨m, ⟨hds, rfl⟩, hn⟩
    exact ⟨hds, hn⟩
  · rintro ⟨hds, hn⟩
    exact ⟨placeValue ds, ⟨hds, rfl⟩, hn⟩

theorem int?_eq_some_iff {cs : List Char} {n : Int} : int? cs = some n ↔ Numeral cs n := by
  constructor
  · intro h
    unfold int? at h
    split at h
    · obtain ⟨hds, rfl⟩ := map_nat?_eq_some_iff.1 h
      exact .minus hds
    · obtain ⟨hds, rfl⟩ := map_nat?_eq_some_iff.1 h
      exact .plus hds
    · obtain ⟨hds, rfl⟩ := map_nat?_eq_some_iff.1 h
      exact .plain hds
  · intro h
    cases h with
    | plus hds => exact map_nat?_eq_some_iff.2 ⟨hds, rfl⟩
    | minus hds => exact map_nat?_eq_some_iff.2 ⟨hds, rfl⟩
    | plain hds =>
      obtain ⟨d, ds, rfl⟩ := List.exists_cons_of_ne_nil hds.1
      have hd : d.isDigit = true := isDigit_iff.2 (hds.2 d List.mem_cons_self)
      rw [int?_of_isDigit ds hd]
      exact map_nat?_eq_some_iff.2 ⟨hds, rfl⟩

/-- A numeral is read as a 32-bit integer exactly if its value is in range. -/
theorem int32?_eq_some_iff_numeral {cs : List Char} {n : Int32} :
    int32? cs = some n ↔ Numeral cs n.toInt :=
  int32?_eq_some_iff.trans int?_eq_some_iff

end Decimal

theorem Numeral.ne_nil {cs : List Char} {n : Int} (h : Numeral cs n) : cs ≠ [] := by
  cases h with
  | plain hds => exact hds.1
  | plus _ => exact List.cons_ne_nil _ _
  | minus _ => exact List.cons_ne_nil _ _

/-- Signs and digits stand close together among the characters. -/
theorem Numeral.between {cs : List Char} {n : Int} (h : Numeral cs n) :
    ∀ c ∈ cs, '+' ≤ c ∧ c ≤ '9' := by
  have hdigits : ∀ {ds : List Char}, DigitString ds → ∀ c ∈ ds, '+' ≤ c ∧ c ≤ '9' := by
    intro ds hds c hc
    obtain ⟨hlo, hhi⟩ := hds.2 c hc
    exact ⟨Char.le_trans (by decide) hlo, hhi⟩
  cases h with
  | plain hds => exact hdigits hds
  | plus hds => exact List.forall_mem_cons.2 ⟨by decide, hdigits hds⟩
  | minus hds => exact List.forall_mem_cons.2 ⟨by decide, hdigits hds⟩

end Text

/-! ### Names -/

theorem Text.isUpper_iff {c : Char} : c.isUpper = true ↔ 'A' ≤ c ∧ c ≤ 'Z' := by
  rw [Char.isUpper, Char.le_def, Char.le_def]
  simp

namespace Severity

theorem ofName?_eq_some_iff {text : String} {s : Severity} :
    ofName? text = some s ↔ (Text.lower text, s) ∈ spellings :=
  map_find?_name_eq_some_iff (by decide)

end Severity

namespace Level

/-- A character with a capital from `A` to `Z` made small; every other character stays. -/
def small (c : Char) : Char :=
  if 'A' ≤ c ∧ c ≤ 'Z' then Char.ofNat (c.toNat + 32) else c

/-- The names of levels, each with the rank that it stands for. -/
def nameRanks : List (String × Int) :=
  [("fatal", -4), ("error", -3), ("warn", -2), ("warning", -2), ("info", 1), ("verbose", 2),
    ("verbose1", 2), ("verbose2", 3), ("verbose3", 4), ("debug", 5)]

/-- A text that is a name, whatever the case of its ASCII letters, with its rank. -/
def Named (text : String) (n : Int) : Prop :=
  ∃ name : String, (name, n) ∈ nameRanks ∧ text.toList.map small = name.toList

theorem small_eq_toLower (c : Char) : small c = c.toLower := by
  by_cases h : 'A' ≤ c ∧ c ≤ 'Z'
  · rw [small, if_pos h, Char.toLower_eq_of_isUpper (Text.isUpper_iff.2 h)]
  · rw [small, if_neg h, Char.toLower_eq_of_not_isUpper (mt Text.isUpper_iff.1 h)]

theorem map_small_eq_iff {text name : String} :
    text.toList.map small = name.toList ↔ Text.lower text = name := by
  have hmap : text.toList.map small = (Text.lower text).toList := by
    rw [Text.toList_lower]
    exact List.map_congr_left fun c _ => small_eq_toLower c
  rw [hmap, String.toList_inj]

theorem nameRanks_eq_map :
    nameRanks = Severity.spellings.map fun spelling => (spelling.1, spelling.2.rank.toInt) := by
  rfl

theorem named_iff {text : String} {n : Int} :
    Named text n ↔ ∃ s : Severity, Severity.ofName? text = some s ∧ s.rank.toInt = n := by
  simp only [Named, map_small_eq_iff, Severity.ofName?_eq_some_iff, nameRanks_eq_map, List.mem_map]
  constructor
  · rintro ⟨name, ⟨p, hp, heq⟩, hname⟩
    obtain ⟨rfl, rfl⟩ := Prod.mk.inj heq
    exact ⟨p.2, hname ▸ hp, rfl⟩
  · rintro ⟨s, hs, rfl⟩
    exact ⟨Text.lower text, ⟨(Text.lower text, s), hs, rfl⟩, rfl⟩

/-- Every name starts with a small letter. -/
theorem le_head_of_mem_nameRanks {name : String} {n : Int} (h : (name, n) ∈ nameRanks) :
    ∃ c rest, name.toList = c :: rest ∧ 'a' ≤ c := by
  have hall : (nameRanks.all fun p => p.1.toList.head?.any fun c => decide ('a' ≤ c)) = true := by
    rfl
  obtain ⟨c, hc, hle⟩ := (Option.any_eq_true _ _).1 (List.all_eq_true.1 hall (name, n) h)
  obtain ⟨rest, hrest⟩ := List.head?_eq_some_iff.1 hc
  exact ⟨c, rest, hrest, of_decide_eq_true hle⟩

/-- A sign and a digit come before every letter, so no numeral is a name. -/
theorem not_numeral_and_named {text : String} {n m : Int} :
    ¬(Text.Numeral text.toList n ∧ Named text m) := by
  rintro ⟨hnum, name, hmem, hname⟩
  obtain ⟨c, cs, hc⟩ := List.exists_cons_of_ne_nil hnum.ne_nil
  obtain ⟨d, ds, hd, hge⟩ := le_head_of_mem_nameRanks hmem
  have hc9 : c.toNat ≤ 57 := (hnum.between c (hc ▸ List.mem_cons_self)).2
  have hsmall : small c = c := by
    rw [small, if_neg]
    rintro ⟨hA, -⟩
    have hcA : 65 ≤ c.toNat := hA
    omega
  have hcd : c = d := by
    rw [hc, hd, List.map_cons, hsmall] at hname
    exact (List.cons.inj hname).1
  have hda : 97 ≤ d.toNat := hge
  rw [← hcd] at hda
  omega

/-! ### Reading a level -/

/-- A text without outer blanks stands for a rank: as a numeral with a value in range, or as a name. -/
def StandsFor (text : String) (n : Int) : Prop :=
  (Text.Numeral text.toList n ∧ -2147483648 ≤ n ∧ n ≤ 2147483647) ∨ Named text n

theorem read?_eq_some_iff {text : String} {l : Level} :
    read? text = some l ↔ StandsFor text l.rank.toInt := by
  constructor
  · intro h
    unfold read? at h
    split at h
    · next rank hrank =>
      obtain rfl := Option.some.inj h
      exact .inl ⟨Text.Decimal.int32?_eq_some_iff_numeral.1 hrank, rank.minValue_le_toInt,
        rank.toInt_le⟩
    · obtain ⟨s, hs, rfl⟩ := Option.map_eq_some_iff.1 h
      exact .inr (named_iff.2 ⟨s, hs, rfl⟩)
  · rintro (⟨hnum, -, -⟩ | hname)
    · exact read?_numeral (Text.Decimal.int32?_eq_some_iff_numeral.2 hnum)
    · obtain ⟨s, hs, hrank⟩ := named_iff.1 hname
      -- numerals are tried first, so a name must be shown not to be one
      have hnone : Text.Decimal.int32? text.toList = none := by
        refine Option.eq_none_iff_forall_ne_some.2 fun rank hrank => ?_
        exact not_numeral_and_named
          ⟨Text.Decimal.int32?_eq_some_iff_numeral.1 hrank, hname⟩
      have hlevel : s.level = l := ext_iff_toInt.2 hrank
      simp only [read?, hnone, hs, Option.map_some, hlevel]

/-- What a text stands for is the rank of a level. -/
theorem StandsFor.exists_rank {text : String} {n : Int} (h : StandsFor text n) :
    ∃ l : Level, l.rank.toInt = n := by
  rcases h with ⟨-, hlo, hhi⟩ | hname
  · have hmin : Int32.minValue.toInt ≤ n := hlo
    have hmax : n ≤ Int32.maxValue.toInt := hhi
    refine ⟨⟨Int32.ofIntLE n hmin hmax⟩, ?_⟩
    rw [Int32.toInt_ofIntLE]
  · obtain ⟨s, -, hs⟩ := named_iff.1 hname
    exact ⟨s.level, hs⟩

theorem read?_eq_none_iff {text : String} : read? text = none ↔ ¬∃ n, StandsFor text n := by
  constructor
  · rintro hnone ⟨n, hn⟩
    obtain ⟨l, rfl⟩ := hn.exists_rank
    rw [read?_eq_some_iff.2 hn] at hnone
    exact absurd hnone (Option.some_ne_none l)
  · intro h
    exact Option.eq_none_iff_forall_ne_some.2 fun l hl => h ⟨_, read?_eq_some_iff.1 hl⟩

theorem parse_eq_unrecognized_iff_standsFor {s quoted : String} :
    parse s = .error (.unrecognized quoted) ↔
      quoted = Text.trim s ∧ Text.trim s ≠ "" ∧ ¬∃ n, StandsFor (Text.trim s) n := by
  rw [parse_eq_unrecognized_iff]
  constructor
  · rintro ⟨rfl, hne, hnone⟩
    exact ⟨rfl, hne, read?_eq_none_iff.1 hnone⟩
  · rintro ⟨rfl, hne, hnone⟩
    exact ⟨rfl, hne, read?_eq_none_iff.2 hnone⟩

end Level

/-! ### Reading a rank -/

namespace Environment

theorem parseRank_eq_ok_iff {s : String} {n : Int32} :
    parseRank s = .ok n ↔ Level.parse s = .ok ⟨n⟩ := by
  cases h : Level.parse s with
  | ok l => rw [parseRank_of_ok h, Except.ok.injEq, Except.ok.injEq, Level.mk.injEq]
  | error e => simp [parseRank_of_error h]

theorem parseRank_eq_error_iff {s : String} {e : Level.ParseError} :
    parseRank s = .error e ↔ Level.parse s = .error e := by
  cases h : Level.parse s with
  | ok l => simp [parseRank_of_ok h]
  | error e' => simp [parseRank_of_error h]

end Environment

namespace Level

/-- Without its outer blanks, and in one way only, a text is a numeral with a value in range, which is read as that
value, or one of the names, which is read as its rank.  An empty rest and any other rest are refused, the latter
with the rest quoted as it is.  Whether the level is read or only its rank, the answer is the same. -/
theorem parse_grammar (s : String) :
    ∃ t : String, (∀ u, Text.TrimsTo s u ↔ u = t) ∧
      (∀ n : Int32, parse s = .ok ⟨n⟩ ↔ StandsFor t n.toInt) ∧
      (∀ n : Int32, Environment.parseRank s = .ok n ↔ StandsFor t n.toInt) ∧
      (∀ n m : Int, ¬(Text.Numeral t.toList n ∧ Named t m)) ∧
      (parse s = .error .empty ↔ t = "") ∧ (Environment.parseRank s = .error .empty ↔ t = "") ∧
      (∀ quoted, parse s = .error (.unrecognized quoted) ↔
        quoted = t ∧ t ≠ "" ∧ ¬∃ n, StandsFor t n) ∧
      (∀ quoted, Environment.parseRank s = .error (.unrecognized quoted) ↔
        quoted = t ∧ t ≠ "" ∧ ¬∃ n, StandsFor t n) := by
  have hok : ∀ n : Int32, parse s = .ok ⟨n⟩ ↔ StandsFor (Text.trim s) n.toInt := fun n =>
    parse_eq_ok_iff.trans read?_eq_some_iff
  refine ⟨Text.trim s, fun u => Text.trimsTo_iff, hok, ?_, ?_, parse_eq_empty_iff, ?_,
    fun quoted => parse_eq_unrecognized_iff_standsFor, ?_⟩
  · intro n
    exact Environment.parseRank_eq_ok_iff.trans (hok n)
  · intro n m
    exact not_numeral_and_named
  · exact Environment.parseRank_eq_error_iff.trans parse_eq_empty_iff
  · intro quoted
    exact Environment.parseRank_eq_error_iff.trans parse_eq_unrecognized_iff_standsFor

end Level

end LeveledLog
