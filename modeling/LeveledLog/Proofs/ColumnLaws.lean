import LeveledLog.Text.Column
import Mathlib.Data.List.DropRight

/-!
# Laws of columns and of rows

Filling a column twice is filling it to the larger of the two widths, and a text that does not end in a space can be
read back from its column.  Columns side by side are a row.  Where a field of a row starts depends on the fields in
front of it only, and it starts further right than their widths ask for exactly if one of them does not fit.

* `pad_pad`, `pad_inj`: columns filled twice, and columns read back;
* `padding_laws`: a column in full;
* `length_row`, `standsAt_row`: how long a row is, and where its fields start;
* `extent_eq_widths_iff`: when a row is as long as its widths ask for.
-/

namespace LeveledLog.Text

/-! ### One column -/

theorem pad_pad (s : String) (a b : Nat) : pad (pad s a) b = pad s (max a b) := by
  rw [← String.toList_inj, toList_pad, toList_pad, toList_pad, length_pad, List.append_assoc,
    List.replicate_append_replicate]
  have hspaces : a - s.length + (b - max s.length a) = max a b - s.length := by omega
  rw [hspaces]

/-- Taking the spaces off the end of a column leaves what taking them off the end of its text leaves. -/
theorem rdropWhile_pad (s : String) (width : Nat) :
    (pad s width).toList.rdropWhile (· = ' ') = s.toList.rdropWhile (· = ' ') := by
  rw [toList_pad]
  induction width - s.length with
  | zero => simp
  | succ k ih =>
    rw [List.replicate_succ', ← List.append_assoc, List.rdropWhile_concat_pos _ _ _ (by decide), ih]

theorem rdropWhile_eq_self {cs : List Char} (h : cs.getLast? ≠ some ' ') :
    cs.rdropWhile (· = ' ') = cs := by
  rw [List.rdropWhile_eq_self_iff]
  intro hne hspace
  exact h (by rw [List.getLast?_eq_some_getLast hne, of_decide_eq_true hspace])

/-- A text that does not end in a space is known by its column, whatever the width. -/
theorem pad_inj {s t : String} {a b : Nat} (hs : s.toList.getLast? ≠ some ' ')
    (ht : t.toList.getLast? ≠ some ' ') (h : pad s a = pad t b) : s = t := by
  have hdrop := congrArg (fun text : String => text.toList.rdropWhile (· = ' ')) h
  simp only [rdropWhile_pad, rdropWhile_eq_self hs, rdropWhile_eq_self ht] at hdrop
  exact String.toList_inj.1 hdrop

/-- A column is its text with only spaces behind it, as long as the larger of the text and the width, by count of
characters.  Filled twice it is filled to the larger width, so that filling it again changes nothing and the order
of two widths does not matter.  Two texts that do not end in a space have the same column only if they are the same
text, be the widths the same or not. -/
theorem padding_laws (s t : String) (a b : Nat) :
    (∃ spaces, (pad s a).toList = s.toList ++ List.replicate spaces ' ') ∧
      (pad s a).length = max s.length a ∧
      pad (pad s a) b = pad s (max a b) ∧
      pad (pad s a) a = pad s a ∧
      pad (pad s a) b = pad (pad s b) a ∧
      (s.toList.getLast? ≠ some ' ' → t.toList.getLast? ≠ some ' ' → pad s a = pad t b → s = t) := by
  refine ⟨⟨a - s.length, toList_pad s a⟩, length_pad s a, pad_pad s a b, ?_, ?_, ?_⟩
  · rw [pad_pad, Nat.max_self]
  · rw [pad_pad, pad_pad, Nat.max_comm]
  · intro hs ht h
    exact pad_inj hs ht h

/-- A name of five characters and seven bytes in a column of six, and in two that it fills. -/
theorem padding_laws_of_accented :
    "größe".toList.getLast? ≠ some ' ' ∧ pad "größe" 6 = "größe " ∧
      (pad "größe" 6).length = max "größe".length 6 ∧
      pad "größe" 3 = pad "größe" 5 ∧ "größe" = "größe" := by
  have hlast : "größe".toList.getLast? ≠ some ' ' := by decide
  have hfull : pad "größe" 3 = pad "größe" 5 := by decide +kernel
  obtain ⟨-, hlength, -⟩ := padding_laws "größe" "größe" 6 0
  obtain ⟨-, -, -, -, -, hinj⟩ := padding_laws "größe" "größe" 3 5
  exact ⟨hlast, by decide +kernel, hlength, hfull, hinj hlast hlast hfull⟩

/-! ### Columns side by side -/

/-- A text that has a column of a width. -/
structure Field where
  text : String
  width : Nat

/-- What a field shows. -/
def Field.shown (f : Field) : String :=
  pad f.text f.width

/-- How many characters a field takes. -/
def Field.extent (f : Field) : Nat :=
  max f.text.length f.width

/-- Whether a field takes no more than its width. -/
def Field.Fits (f : Field) : Prop :=
  f.text.length ≤ f.width

/-- Fields with nothing between them. -/
def row : List Field → String
  | [] => ""
  | f :: rest => f.shown ++ row rest

/-- How many characters a row takes. -/
def extent : List Field → Nat
  | [] => 0
  | f :: rest => f.extent + extent rest

/-- How many characters the widths of fields add up to. -/
def widths : List Field → Nat
  | [] => 0
  | f :: rest => f.width + widths rest

theorem row_append (front behind : List Field) : row (front ++ behind) = row front ++ row behind := by
  induction front with
  | nil => exact String.empty_append.symm
  | cons f front ih => rw [List.cons_append, row, row, ih, String.append_assoc]

theorem length_row (fields : List Field) : (row fields).length = extent fields := by
  induction fields with
  | nil => rfl
  | cons f fields ih =>
    rw [row, extent, String.length_append, ih, Field.shown, Field.extent, length_pad]

theorem widths_le_extent (fields : List Field) : widths fields ≤ extent fields := by
  induction fields with
  | nil => exact Nat.le_refl 0
  | cons f fields ih =>
    have hwidth : f.width ≤ f.extent := Nat.le_max_right _ _
    simp only [widths, extent]
    omega

/-- A row is longer than its widths ask for exactly if a field does not fit. -/
theorem extent_eq_widths_iff (fields : List Field) :
    extent fields = widths fields ↔ ∀ f ∈ fields, f.Fits := by
  induction fields with
  | nil => simp [extent, widths]
  | cons f fields ih =>
    have hwidths : widths fields ≤ extent fields := widths_le_extent fields
    rw [List.forall_mem_cons, ← ih, extent, widths, Field.extent, Field.Fits]
    omega

/-! ### Where a part starts -/

/-- A part of a text starts at a column, by count of characters from 0. -/
def StandsAt (part : String) (column : Nat) (text : String) : Prop :=
  ∃ front behind : String, text = front ++ part ++ behind ∧ front.length = column

theorem standsAt_append (front part behind : String) :
    StandsAt part front.length (front ++ (part ++ behind)) :=
  ⟨front, behind, String.append_assoc.symm, rfl⟩

theorem standsAt_end (front part : String) : StandsAt part front.length (front ++ part) :=
  ⟨front, "", String.append_empty.symm, rfl⟩

/-- A field starts where the fields in front of it end, whatever stands behind the row. -/
theorem standsAt_row (front : List Field) (f : Field) (behind : List Field) (rest : String) :
    StandsAt f.shown (extent front) (row (front ++ f :: behind) ++ rest) := by
  rw [row_append, row, String.append_assoc, String.append_assoc, ← length_row]
  exact standsAt_append _ _ _

/-- What follows a row starts where the row ends. -/
theorem standsAt_row_end (fields : List Field) (rest : String) :
    StandsAt rest (extent fields) (row fields ++ rest) := by
  rw [← length_row]
  exact standsAt_end _ _

end LeveledLog.Text
