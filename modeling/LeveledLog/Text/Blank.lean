/-!
# Blank characters and trimming

A text read as a setting may stand between blanks.  The blanks are the characters with the Unicode property
`White_Space`, held as a table of code point ranges; trimming takes them off both ends and nothing else.

* `exists_trimmed_append`: a list is its trimmed part between two runs of blanks;
* `head?_trimmed`, `getLast?_trimmed`: neither end of the trimmed part is blank.
-/

namespace LeveledLog.Text

/-! ### The table -/

/-- The code points with the property `White_Space`, as closed ranges in ascending order. -/
def blankRanges : List (Nat × Nat) :=
  [(0x09, 0x0D), (0x20, 0x20), (0x85, 0x85), (0xA0, 0xA0), (0x1680, 0x1680), (0x2000, 0x200A),
    (0x2028, 0x2029), (0x202F, 0x202F), (0x205F, 0x205F), (0x3000, 0x3000)]

/-- Whether a character is in one of the blank ranges. -/
def isBlank (c : Char) : Bool :=
  blankRanges.any fun (lo, hi) => decide (lo ≤ c.toNat) && decide (c.toNat ≤ hi)

example : (blankRanges.map fun (lo, hi) => hi + 1 - lo).sum = 25 := by decide

/-! ### Trimming -/

/-- A list without the blanks at its two ends. -/
def trimmed (cs : List Char) : List Char :=
  ((cs.dropWhile isBlank).reverse.dropWhile isBlank).reverse

/-- A text without the blanks at its two ends. -/
def trim (s : String) : String :=
  String.ofList (trimmed s.toList)

theorem toList_trim (s : String) : (trim s).toList = trimmed s.toList := by
  simp [trim]

/-- Trimming only takes blanks, and only from the two ends. -/
theorem exists_trimmed_append (cs : List Char) :
    ∃ front back : List Char, (∀ c ∈ front, isBlank c = true) ∧ (∀ c ∈ back, isBlank c = true) ∧
      cs = front ++ trimmed cs ++ back := by
  refine ⟨cs.takeWhile isBlank, ((cs.dropWhile isBlank).reverse.takeWhile isBlank).reverse, ?_, ?_, ?_⟩
  · intro c hc
    exact List.all_eq_true.1 (List.all_takeWhile) c hc
  · intro c hc
    exact List.all_eq_true.1 (List.all_takeWhile) c (List.mem_reverse.1 hc)
  · rw [trimmed, List.append_assoc, ← List.reverse_append, List.takeWhile_append_dropWhile,
      List.reverse_reverse, List.takeWhile_append_dropWhile]

/-- What trimming leaves does not end in a blank. -/
theorem getLast?_trimmed {cs : List Char} {c : Char} (h : (trimmed cs).getLast? = some c) :
    isBlank c = false := by
  rw [trimmed, List.getLast?_reverse] at h
  have := List.head?_dropWhile_not isBlank (cs.dropWhile isBlank).reverse
  rw [h] at this
  simpa using this

/-- What trimming leaves does not start with a blank. -/
theorem head?_trimmed {cs : List Char} {c : Char} (h : (trimmed cs).head? = some c) :
    isBlank c = false := by
  have hfront := List.head?_dropWhile_not isBlank cs
  obtain ⟨back, hback⟩ : ∃ back, cs.dropWhile isBlank = trimmed cs ++ back :=
    ⟨((cs.dropWhile isBlank).reverse.takeWhile isBlank).reverse, by
      rw [trimmed, ← List.reverse_append, List.takeWhile_append_dropWhile, List.reverse_reverse]⟩
  rw [hback, List.head?_append, h] at hfront
  simpa using hfront

end LeveledLog.Text
