import LeveledLog.Proofs.LevelGrammar

/-!
# Texts that differ in letter case

Two texts differ at most in the case of ASCII letters if they have, place by place, the same character or a capital
from `A` to `Z` and its small letter.  That is told here without bringing a text to lower case.  Neither blanks nor the
characters of a numeral have a case, so trimming and the reading of numerals do not see the difference.

* `sameButCase_iff`: such texts are those with the same lower case;
* `trim_lower`: trimming a text and bringing it to lower case can be done in either order;
* `Decimal.int32?_map_toLower`: lower case changes no numeral, and makes none.
-/

namespace LeveledLog.Text

/-! ### Characters -/

/-- Two characters that are the same, or a capital from `A` to `Z` and its small letter. -/
inductive CaseTwin : Char → Char → Prop
  | same (c : Char) : CaseTwin c c
  | lowered {a b : Char} (ha : 'A' ≤ a ∧ a ≤ 'Z') (hb : b.toNat = a.toNat + 32) : CaseTwin a b
  | raised {a b : Char} (hb : 'A' ≤ b ∧ b ≤ 'Z') (ha : a.toNat = b.toNat + 32) : CaseTwin a b

/-- A capital is followed by its small letter 32 places on. -/
theorem toNat_toLower_of_isUpper {c : Char} (h : c.isUpper = true) :
    c.toLower.toNat = c.toNat + 32 := by
  have hhi : c.toNat ≤ 90 := (isUpper_iff.1 h).2
  have hvalid : (c.toNat + 32).isValidChar := .inl (by omega)
  rw [Char.toLower_eq_of_isUpper h, Char.toNat_ofNat, if_pos hvalid]

/-- A character whose lower case comes before the small letters has no case. -/
theorem toLower_eq_self_of_lt {c : Char} (h : c.toLower.toNat < 97) : c.toLower = c := by
  refine Char.toLower_eq_of_not_isUpper fun hupper => ?_
  have hlo : 65 ≤ c.toNat := (isUpper_iff.1 hupper).1
  have hsum : c.toLower.toNat = c.toNat + 32 := toNat_toLower_of_isUpper hupper
  omega

theorem toLower_eq_of_toNat {a b : Char} (ha : a.isUpper = true) (hb : b.toNat = a.toNat + 32) :
    a.toLower = b.toLower := by
  have hsmall : a.toLower = b := Char.toNat_inj.1 ((toNat_toLower_of_isUpper ha).trans hb.symm)
  rw [← hsmall, Char.toLower_toLower_eq_toLower]

theorem caseTwin_iff {a b : Char} : CaseTwin a b ↔ a.toLower = b.toLower := by
  constructor
  · intro h
    cases h with
    | same => rfl
    | lowered ha hb => exact toLower_eq_of_toNat (isUpper_iff.2 ha) hb
    | raised hb ha => exact (toLower_eq_of_toNat (isUpper_iff.2 hb) ha).symm
  · intro h
    have hnat : a.toLower.toNat = b.toLower.toNat := congrArg Char.toNat h
    by_cases ha : a.isUpper = true
    · have hasum : a.toLower.toNat = a.toNat + 32 := toNat_toLower_of_isUpper ha
      by_cases hb : b.isUpper = true
      · have hbsum : b.toLower.toNat = b.toNat + 32 := toNat_toLower_of_isUpper hb
        have hab : a = b := Char.toNat_inj.1 (by omega)
        rw [hab]
        exact .same b
      · rw [Char.toLower_eq_of_not_isUpper hb] at hnat
        exact .lowered (isUpper_iff.1 ha) (by omega)
    · rw [Char.toLower_eq_of_not_isUpper ha] at h hnat
      by_cases hb : b.isUpper = true
      · exact .raised (isUpper_iff.1 hb) (hnat.trans (toNat_toLower_of_isUpper hb))
      · rw [Char.toLower_eq_of_not_isUpper hb] at h
        rw [h]
        exact .same b

/-! ### Texts -/

/-- Two texts that differ at most in the case of ASCII letters. -/
def SameButCase (s t : String) : Prop :=
  List.Forall₂ CaseTwin s.toList t.toList

theorem sameButCase_iff {s t : String} : SameButCase s t ↔ lower s = lower t := by
  have htwin : CaseTwin = fun a b => a.toLower = b.toLower :=
    funext fun a => funext fun b => propext caseTwin_iff
  rw [← String.toList_inj, toList_lower, toList_lower, ← List.forall₂_eq_eq_eq,
    List.forall₂_map_left_iff, List.forall₂_map_right_iff, SameButCase, htwin]

theorem SameButCase.refl (s : String) : SameButCase s s :=
  sameButCase_iff.2 rfl

theorem lower_lower (s : String) : lower (lower s) = lower s := by
  rw [← String.toList_inj, toList_lower, toList_lower, List.map_map]
  exact List.map_congr_left fun c _ => c.toLower_toLower_eq_toLower

theorem lower_eq_empty_iff {s : String} : lower s = "" ↔ s = "" := by
  rw [← String.toList_inj, ← String.toList_inj, toList_lower]
  exact List.map_eq_nil_iff

/-! ### Trimming -/

theorem isBlank_toLower (c : Char) : isBlank c.toLower = isBlank c := by
  by_cases h : c.isUpper = true
  · have hlo : 65 ≤ c.toNat := (isUpper_iff.1 h).1
    have hhi : c.toNat ≤ 90 := (isUpper_iff.1 h).2
    have hsum : c.toLower.toNat = c.toNat + 32 := toNat_toLower_of_isUpper h
    rw [isBlank_of_visible (by omega) (by omega), isBlank_of_visible (by omega) (by omega)]
  · rw [Char.toLower_eq_of_not_isUpper h]

theorem dropWhile_isBlank_map_toLower (cs : List Char) :
    (cs.map Char.toLower).dropWhile isBlank = (cs.dropWhile isBlank).map Char.toLower := by
  have hblank : isBlank ∘ Char.toLower = isBlank := funext isBlank_toLower
  rw [List.dropWhile_map, hblank]

theorem trimmed_map_toLower (cs : List Char) :
    trimmed (cs.map Char.toLower) = (trimmed cs).map Char.toLower := by
  rw [trimmed, dropWhile_isBlank_map_toLower, ← List.map_reverse, dropWhile_isBlank_map_toLower,
    ← List.map_reverse, trimmed]

theorem trim_lower (s : String) : trim (lower s) = lower (trim s) := by
  rw [← String.toList_inj, toList_trim, toList_lower, toList_lower, toList_trim, trimmed_map_toLower]

/-! ### Numerals -/

theorem map_toLower_eq_self {cs : List Char} (h : ∀ c ∈ cs, c.toLower = c) :
    cs.map Char.toLower = cs :=
  (List.map_congr_left h).trans (List.map_id cs)

theorem Numeral.map_toLower_iff {cs : List Char} {n : Int} :
    Numeral (cs.map Char.toLower) n ↔ Numeral cs n := by
  -- on either side all characters come before the letters, so lower case is the list itself
  have key : (∀ c ∈ cs, c.toLower = c) → (Numeral (cs.map Char.toLower) n ↔ Numeral cs n) := by
    intro h
    rw [map_toLower_eq_self h]
  constructor
  · intro h
    refine (key fun c hc => toLower_eq_self_of_lt ?_).1 h
    have hle : c.toLower.toNat ≤ 57 := (h.between _ (List.mem_map_of_mem hc)).2
    omega
  · intro h
    refine (key fun c hc => Char.toLower_eq_of_not_isUpper fun hupper => ?_).2 h
    have hle : c.toNat ≤ 57 := (h.between c hc).2
    have hlo : 65 ≤ c.toNat := (isUpper_iff.1 hupper).1
    omega

theorem Decimal.int32?_map_toLower (cs : List Char) :
    int32? (cs.map Char.toLower) = int32? cs := by
  refine Option.ext fun n => ?_
  rw [int32?_eq_some_iff_numeral, int32?_eq_some_iff_numeral, Numeral.map_toLower_iff]

end LeveledLog.Text
