import LeveledLog.Text.Blank
import Mathlib.Data.List.TakeWhile

/-!
# Trimmed texts

Trimming is told here without an algorithm: what is left of a text is the part of it that neither starts nor ends
with a blank and has only blanks around it.  There is one such part.

* `isBlank_of_visible`: the printing characters of ASCII are not blank;
* `trimmed_append`: blanks in front of a list and behind it make no difference;
* `trimmed_of_bare`: a list without blanks at its ends is left as it is;
* `trimsTo_iff`: the part that is left is the one that trimming gives.
-/

namespace LeveledLog.Text

/-- A list of characters that neither starts nor ends with a blank. -/
structure Bare (cs : List Char) : Prop where
  head : ∀ c, cs.head? = some c → isBlank c = false
  last : ∀ c, cs.getLast? = some c → isBlank c = false

/-- The second text is the first one without the blanks at its two ends. -/
def TrimsTo (s t : String) : Prop :=
  ∃ front back : List Char, (∀ c ∈ front, isBlank c = true) ∧ (∀ c ∈ back, isBlank c = true) ∧
    s.toList = front ++ t.toList ++ back ∧ Bare t.toList

/-- No character from `!` to `~` is blank. -/
theorem isBlank_of_visible {c : Char} (hlo : 33 ≤ c.toNat) (hhi : c.toNat ≤ 126) :
    isBlank c = false := by
  simp only [isBlank, blankRanges, List.any_cons, List.any_nil, Bool.or_false, Bool.or_eq_false_iff,
    Bool.and_eq_false_iff, decide_eq_false_iff_not]
  omega

theorem bare_trimmed (cs : List Char) : Bare (trimmed cs) :=
  ⟨fun _ h => head?_trimmed h, fun _ h => getLast?_trimmed h⟩

theorem trimmed_of_forall_blank {cs : List Char} (h : ∀ c ∈ cs, isBlank c = true) :
    trimmed cs = [] := by
  rw [trimmed, List.dropWhile_eq_nil_iff.2 h]
  rfl

/-- Blanks in front of a list are taken off. -/
theorem trimmed_append_left {front : List Char} (h : ∀ c ∈ front, isBlank c = true)
    (cs : List Char) : trimmed (front ++ cs) = trimmed cs := by
  rw [trimmed, List.dropWhile_append_of_pos h, trimmed]

/-- Blanks behind a list are taken off. -/
theorem trimmed_append_right (cs : List Char) {back : List Char}
    (h : ∀ c ∈ back, isBlank c = true) : trimmed (cs ++ back) = trimmed cs := by
  -- a list of blanks would let the first pass go on into what stands behind it
  by_cases hcs : cs.dropWhile isBlank = []
  · have hall : ∀ c ∈ cs, isBlank c = true := List.dropWhile_eq_nil_iff.1 hcs
    rw [trimmed_append_left hall, trimmed_of_forall_blank h, trimmed_of_forall_blank hall]
  · have hdrop : (cs ++ back).dropWhile isBlank = cs.dropWhile isBlank ++ back := by
      rw [List.dropWhile_append, if_neg (by rwa [List.isEmpty_iff])]
    have hback : ∀ c ∈ back.reverse, isBlank c = true := fun c hc => h c (List.mem_reverse.1 hc)
    rw [trimmed, hdrop, List.reverse_append, List.dropWhile_append_of_pos hback, trimmed]

theorem trimmed_append {front back : List Char} (hfront : ∀ c ∈ front, isBlank c = true)
    (hback : ∀ c ∈ back, isBlank c = true) (cs : List Char) :
    trimmed (front ++ cs ++ back) = trimmed cs := by
  rw [trimmed_append_right _ hback, trimmed_append_left hfront]

/-- Nothing is dropped from a list that starts without a blank. -/
theorem dropWhile_isBlank_eq_self {cs : List Char}
    (h : ∀ c, cs.head? = some c → isBlank c = false) : cs.dropWhile isBlank = cs := by
  cases cs with
  | nil => rfl
  | cons c cs => rw [List.dropWhile_cons, h c rfl, if_neg Bool.false_ne_true]

theorem trimmed_of_bare {cs : List Char} (h : Bare cs) : trimmed cs = cs := by
  have hlast : ∀ c, cs.reverse.head? = some c → isBlank c = false := fun c hc =>
    h.last c (by rwa [List.head?_reverse] at hc)
  rw [trimmed, dropWhile_isBlank_eq_self h.head, dropWhile_isBlank_eq_self hlast,
    List.reverse_reverse]

theorem bare_of_forall {cs : List Char} (h : ∀ c ∈ cs, isBlank c = false) : Bare cs :=
  ⟨fun c hc => h c (List.mem_of_mem_head? hc), fun c hc => h c (List.mem_of_getLast? hc)⟩

/-- The part of a text that stands between its outer blanks is the one that trimming leaves. -/
theorem trimsTo_iff {s t : String} : TrimsTo s t ↔ t = trim s := by
  constructor
  · rintro ⟨front, back, hfront, hback, hs, hbare⟩
    rw [← String.toList_inj, toList_trim, hs, trimmed_append hfront hback, trimmed_of_bare hbare]
  · rintro rfl
    obtain ⟨front, back, hfront, hback, hs⟩ := exists_trimmed_append s.toList
    refine ⟨front, back, hfront, hback, ?_, ?_⟩
    · rw [toList_trim]
      exact hs
    · rw [toList_trim]
      exact bare_trimmed s.toList

end LeveledLog.Text
