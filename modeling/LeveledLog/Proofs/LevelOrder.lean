import LeveledLog.Level.Basic
import Mathlib.Data.Int.Order.Basic
import Mathlib.Order.Basic

/-!
# The order of levels

Levels are ordered as their ranks are as integers.  Since no two levels have the same rank this is a linear order,
and the comparison of levels is the one that goes with it.

* `toInt_rank_injective`: a level is known by its rank as an integer;
* `compare_toInt_rank`: comparing two levels is comparing these integers.
-/

namespace LeveledLog.Level

theorem toInt_rank_injective : Function.Injective fun l : Level => l.rank.toInt :=
  fun _ _ h => ext_iff_toInt.2 h

theorem compare_toInt_rank (a b : Level) : compare a.rank.toInt b.rank.toInt = compare a b := by
  show compareOfLessAndEq a.rank.toInt b.rank.toInt = compareOfLessAndEq a.rank b.rank
  simp only [compareOfLessAndEq, Int32.lt_iff_toInt_lt, Int32.toInt_inj]

/-! ### The larger and the smaller of two levels -/

instance : Max Level := maxOfLe

instance : Min Level := minOfLe

theorem toInt_rank_max (a b : Level) : (max a b).rank.toInt = max a.rank.toInt b.rank.toInt := by
  show (if a ≤ b then b else a).rank.toInt = _
  rw [Int.max_def, apply_ite rank, apply_ite Int32.toInt, if_congr le_iff rfl rfl]

theorem toInt_rank_min (a b : Level) : (min a b).rank.toInt = min a.rank.toInt b.rank.toInt := by
  show (if a ≤ b then a else b).rank.toInt = _
  rw [Int.min_def, apply_ite rank, apply_ite Int32.toInt, if_congr le_iff rfl rfl]

instance : LinearOrder Level :=
  Function.Injective.linearOrder (fun l : Level => l.rank.toInt) toInt_rank_injective le_iff.symm
    lt_iff.symm toInt_rank_min toInt_rank_max compare_toInt_rank

end LeveledLog.Level
