/-!
# Decimal integers of 32 bits

A numeral is an optional sign, `+` or `-`, and then one or more ASCII digits; leading zeros are allowed.  It
stands for its mathematical value, and it is read as a 32-bit integer when that value is one.  The written
form has no `+` and no leading zeros.

* `nat?_eq_some_iff`: which lists are digit strings, and for what;
* `int32?_eq_some_iff`: reading keeps the value and refuses what is out of range;
* `int32?_text`: reading gives back what was written.
-/

namespace LeveledLog.Text.Decimal

/-! ### Reading -/

/-- The value of one or more ASCII digits. -/
def nat? (ds : List Char) : Option Nat :=
  if ds ≠ [] ∧ ds.all Char.isDigit = true then some (Nat.ofDigitChars 10 ds 0) else none

/-- The value of an optional sign and one or more ASCII digits. -/
def int? : List Char → Option Int
  | '-' :: ds => (nat? ds).map fun n : Nat => -(n : Int)
  | '+' :: ds => (nat? ds).map fun n : Nat => (n : Int)
  | ds => (nat? ds).map fun n : Nat => (n : Int)

/-- The 32-bit integer that a numeral stands for, if its value is in range. -/
def int32? (cs : List Char) : Option Int32 :=
  match int? cs with
  | some n =>
    if h : Int32.minValue.toInt ≤ n ∧ n ≤ Int32.maxValue.toInt then
      some (Int32.ofIntLE n h.1 h.2)
    else none
  | none => none

/-! ### Writing -/

/-- The numeral of a 32-bit integer: a `-` where it is negative, and no leading zeros. -/
def text (n : Int32) : String :=
  n.toInt.repr

/-! ### Laws -/

theorem nat?_eq_some_iff {ds : List Char} {n : Nat} :
    nat? ds = some n ↔
      ds ≠ [] ∧ (∀ d ∈ ds, d.isDigit = true) ∧ Nat.ofDigitChars 10 ds 0 = n := by
  simp [nat?, and_assoc]

/-- The digits of a natural number read back. -/
theorem nat?_toDigits (n : Nat) : nat? (Nat.toDigits 10 n) = some n := by
  refine nat?_eq_some_iff.2 ⟨Nat.toDigits_ne_nil, fun d hd => ?_, by simp⟩
  exact Nat.isDigit_of_mem_toDigits (by decide) (by decide) hd

theorem int32?_eq_some_iff {cs : List Char} {n : Int32} :
    int32? cs = some n ↔ int? cs = some n.toInt := by
  unfold int32?
  constructor
  · intro h
    split at h
    · next v hv =>
      split at h
      · next hr =>
        rw [hv, ← Option.some.inj h, Int32.toInt_ofIntLE]
      · nomatch h
    · nomatch h
  · intro h
    rw [h]
    exact (dif_pos ⟨n.minValue_le_toInt, n.toInt_le⟩).trans (congrArg some (Int32.ofIntLE_toInt n))

/-- A list that starts with a digit is read without a sign. -/
theorem int?_of_isDigit {d : Char} (ds : List Char) (h : d.isDigit = true) :
    int? (d :: ds) = (nat? (d :: ds)).map fun n : Nat => (n : Int) := by
  unfold int?
  split
  · next heq => simp_all [List.cons.injEq]
  · next heq => simp_all [List.cons.injEq]
  · rfl

/-- The usual text of an integer reads back. -/
theorem int?_repr (n : Int) : int? n.repr.toList = some n := by
  cases n with
  | ofNat m =>
    have hm : (Int.ofNat m).repr.toList = Nat.toDigits 10 m := Nat.toList_repr
    rw [hm]
    obtain ⟨d, ds, hds⟩ := List.exists_cons_of_ne_nil (Nat.toDigits_ne_nil (b := 10) (n := m))
    have hd : d.isDigit = true :=
      Nat.isDigit_of_mem_toDigits (by decide) (by decide) (hds ▸ List.mem_cons_self)
    rw [hds, int?_of_isDigit ds hd, ← hds, nat?_toDigits]
    rfl
  | negSucc m =>
    have hm : (Int.negSucc m).repr.toList = '-' :: Nat.toDigits 10 (m + 1) := by
      rw [← Nat.toList_repr]
      exact String.toList_append
    rw [hm, int?, nat?_toDigits]
    rfl

/-- The numeral of a 32-bit integer reads back as that integer. -/
theorem int32?_text (n : Int32) : int32? (text n).toList = some n :=
  int32?_eq_some_iff.2 (int?_repr n.toInt)

end LeveledLog.Text.Decimal
