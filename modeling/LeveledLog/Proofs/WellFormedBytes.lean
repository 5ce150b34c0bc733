import LeveledLog.Text.Utf8
import Mathlib.Order.Monotone.Basic

/-!
# Well-formed bytes

Which bytes are a text is told here without a decoder.  A number is laid out in one to four bytes, of which the first
one tells how many follow and the others hold six bits each.  Bytes are well-formed if they are made of layouts, each
the shortest one for its number, of numbers that are characters.  A byte that starts a layout is never one that
continues one, so a layout that may not be there, or that breaks off, spoils all bytes around it.

* `EncodesChar.exists_char`, `encodesChar_utf8EncodeChar`: the layouts of characters;
* `wellFormed_iff`: bytes are well-formed exactly if they are the encoding of a text;
* `WellFormed.of_append`: well-formed bytes stay so when they are cut at the start of a layout;
* `not_wellFormed_of_laid`, `not_wellFormed_of_cut`: a bad layout, or the start of one alone, at any position.
-/

namespace LeveledLog.Text

/-! ### Layouts of numbers -/

/-- A byte that continues a layout. -/
def IsTail (b : UInt8) : Prop :=
  0x80 ≤ b.toNat ∧ b.toNat ≤ 0xBF

instance (b : UInt8) : Decidable (IsTail b) :=
  inferInstanceAs (Decidable (0x80 ≤ b.toNat ∧ b.toNat ≤ 0xBF))

/-- The layout of a number in bytes, whether or not a text may have it. -/
inductive Laid : Bytes → Nat → Prop
  | one {a : UInt8} {n : Nat} (ha : a.toNat ≤ 0x7F) (hn : n = a.toNat) : Laid [a] n
  | two {a b : UInt8} {n : Nat} (ha : 0xC0 ≤ a.toNat ∧ a.toNat ≤ 0xDF) (hb : IsTail b)
    (hn : n = (a.toNat - 0xC0) * 64 + (b.toNat - 0x80)) : Laid [a, b] n
  | three {a b c : UInt8} {n : Nat} (ha : 0xE0 ≤ a.toNat ∧ a.toNat ≤ 0xEF) (hb : IsTail b)
    (hc : IsTail c)
    (hn : n = ((a.toNat - 0xE0) * 64 + (b.toNat - 0x80)) * 64 + (c.toNat - 0x80)) : Laid [a, b, c] n
  | four {a b c d : UInt8} {n : Nat} (ha : 0xF0 ≤ a.toNat ∧ a.toNat ≤ 0xF7) (hb : IsTail b)
    (hc : IsTail c) (hd : IsTail d)
    (hn : n = (((a.toNat - 0xF0) * 64 + (b.toNat - 0x80)) * 64 + (c.toNat - 0x80)) * 64 +
      (d.toNat - 0x80)) : Laid [a, b, c, d] n

/-- The least number that needs so many bytes. -/
def leastOf : Nat → Nat
  | 0 | 1 => 0
  | 2 => 0x80
  | 3 => 0x800
  | 4 => 0x10000
  | _ => 0x200000

/-- The bytes of a character with a number: its shortest layout. -/
structure EncodesChar (bs : Bytes) (n : Nat) : Prop where
  laid : Laid bs n
  shortest : leastOf bs.length ≤ n
  character : n < 0xD800 ∨ 0xDFFF < n ∧ n ≤ 0x10FFFF

/-- Bytes that are made of the bytes of characters. -/
inductive WellFormed : Bytes → Prop
  | nil : WellFormed []
  | append {chunk rest : Bytes} {n : Nat} (h : EncodesChar chunk n) (hrest : WellFormed rest) :
    WellFormed (chunk ++ rest)

/-- How many bytes follow a byte that starts a layout. -/
def tailCount (a : UInt8) : Nat :=
  if a.toNat ≤ 0x7F then 0 else if a.toNat ≤ 0xDF then 1 else if a.toNat ≤ 0xEF then 2 else 3

theorem Laid.exists_cons {bs : Bytes} {n : Nat} (h : Laid bs n) :
    ∃ a tails, bs = a :: tails ∧ ¬IsTail a ∧ (∀ b ∈ tails, IsTail b) ∧
      tails.length = tailCount a := by
  cases h with
  | @one a _ ha _ =>
    refine ⟨a, [], rfl, fun h => ?_, fun b hb => absurd hb List.not_mem_nil, ?_⟩
    · have := h.1
      omega
    · rw [tailCount, if_pos ha]
      rfl
  | @two a b _ ha hb _ =>
    refine ⟨a, [b], rfl, fun h => ?_, by simpa using hb, ?_⟩
    · have := h.2
      omega
    · rw [tailCount, if_neg (by omega), if_pos ha.2]
      rfl
  | @three a b c _ ha hb hc _ =>
    refine ⟨a, [b, c], rfl, fun h => ?_, by simpa using ⟨hb, hc⟩, ?_⟩
    · have := h.2
      omega
    · rw [tailCount, if_neg (by omega), if_neg (by omega), if_pos ha.2]
      rfl
  | @four a b c d _ ha hb hc hd _ =>
    refine ⟨a, [b, c, d], rfl, fun h => ?_, by simpa using ⟨hb, hc, hd⟩, ?_⟩
    · have := h.2
      omega
    · rw [tailCount, if_neg (by omega), if_neg (by omega), if_neg (by omega)]
      rfl

theorem Laid.eq_of_laid {bs : Bytes} {n m : Nat} (hn : Laid bs n) (hm : Laid bs m) : n = m := by
  cases hn <;> cases hm <;> omega

/-- A layout with so many bytes holds a smaller number than one that needs a byte more. -/
theorem Laid.lt_leastOf {bs : Bytes} {n : Nat} (h : Laid bs n) : n < leastOf (bs.length + 1) := by
  cases h <;> simp only [leastOf, List.length_cons, List.length_nil, IsTail] at * <;> omega

theorem Laid.eq_of_length_eq {bs bs' : Bytes} {n : Nat} (h : Laid bs n) (h' : Laid bs' n)
    (hlen : bs.length = bs'.length) : bs = bs' := by
  cases h <;> cases h' <;>
    simp only [List.length_cons, List.length_nil, List.cons.injEq, ← UInt8.toNat_inj, and_true,
      IsTail] at * <;> omega

theorem leastOf_mono : Monotone leastOf := by
  refine monotone_nat_of_le_succ fun k => ?_
  match k with
  | 0 | 1 | 2 | 3 | 4 => decide
  | k + 5 => exact Nat.le_refl _

/-- A character has the bytes of one layout only. -/
theorem EncodesChar.eq {bs bs' : Bytes} {n : Nat} (h : EncodesChar bs n) (h' : EncodesChar bs' n) :
    bs = bs' := by
  -- a longer layout would not be the shortest one
  have hle : ∀ {as as' : Bytes}, EncodesChar as n → EncodesChar as' n → as.length ≤ as'.length := by
    intro as as' ha ha'
    by_contra hlt
    have hmono : leastOf (as'.length + 1) ≤ leastOf as.length := leastOf_mono (by omega)
    have hsmall : n < leastOf (as'.length + 1) := ha'.laid.lt_leastOf
    have hlarge : leastOf as.length ≤ n := ha.shortest
    omega
  exact h.laid.eq_of_length_eq h'.laid (Nat.le_antisymm (hle h h') (hle h' h))

/-! ### The layouts of characters -/

theorem toNat_byte {n : Nat} (h : n < 256) : (UInt8.ofNat n).toNat = n :=
  UInt8.toNat_ofNat_of_lt' h

theorem toNat_tail (m : Nat) : (UInt8.ofNat (m % 0x40 + 0x80)).toNat = m % 0x40 + 0x80 :=
  toNat_byte (by omega)

theorem isTail_tail (m : Nat) : IsTail (UInt8.ofNat (m % 0x40 + 0x80)) := by
  rw [IsTail, toNat_tail]
  omega

theorem encodesChar_utf8EncodeChar (c : Char) : EncodesChar (String.utf8EncodeChar c) c.toNat := by
  have hchar : c.toNat < 0xD800 ∨ 0xDFFF < c.toNat ∧ c.toNat < 0x110000 := c.valid
  have hval : c.val.toNat = c.toNat := rfl
  rw [String.utf8EncodeChar, hval]
  generalize c.toNat = n at hchar
  split
  · next h =>
    have hlead : (UInt8.ofNat n).toNat = n := toNat_byte (by omega)
    exact ⟨.one (by omega) hlead.symm, Nat.zero_le n, by omega⟩
  · split
    · next h =>
      have hlead : (UInt8.ofNat (n / 64 % 0x20 + 0xc0)).toNat = n / 64 % 0x20 + 0xc0 :=
        toNat_byte (by omega)
      refine ⟨.two (by omega) (isTail_tail n) ?_, ?_, by omega⟩
      · rw [hlead, toNat_tail]
        omega
      · show 0x80 ≤ n
        omega
    · split
      · next h =>
        have hlead : (UInt8.ofNat (n / 4096 % 0x10 + 0xe0)).toNat = n / 4096 % 0x10 + 0xe0 :=
          toNat_byte (by omega)
        refine ⟨.three (by omega) (isTail_tail (n / 64)) (isTail_tail n) ?_, ?_, by omega⟩
        · rw [hlead, toNat_tail, toNat_tail]
          omega
        · show 0x800 ≤ n
          omega
      · have hlead : (UInt8.ofNat (n / 262144 % 0x08 + 0xf0)).toNat = n / 262144 % 0x08 + 0xf0 :=
          toNat_byte (by omega)
        refine ⟨.four (by omega) (isTail_tail (n / 4096)) (isTail_tail (n / 64)) (isTail_tail n)
          ?_, ?_, by omega⟩
        · rw [hlead, toNat_tail, toNat_tail, toNat_tail]
          omega
        · show 0x10000 ≤ n
          omega

theorem EncodesChar.exists_char {bs : Bytes} {n : Nat} (h : EncodesChar bs n) :
    ∃ c : Char, bs = String.utf8EncodeChar c := by
  have hvalid : n.isValidChar := by
    have := h.character
    show n < 0xD800 ∨ 0xDFFF < n ∧ n < 0x110000
    omega
  have hnat : (Char.ofNat n).toNat = n := by
    rw [Char.ofNat, dif_pos hvalid]
    rfl
  refine ⟨Char.ofNat n, h.eq ?_⟩
  have hencodes := encodesChar_utf8EncodeChar (Char.ofNat n)
  rwa [hnat] at hencodes

/-! ### Texts -/

theorem utf8_eq_flatMap (s : String) : utf8 s = s.toList.flatMap String.utf8EncodeChar := by
  rw [utf8, ← String.utf8Encode_toList]
  exact List.toList_data_toByteArray

/-- Well-formed bytes are the encodings of texts. -/
theorem wellFormed_iff {bs : Bytes} : WellFormed bs ↔ ∃ s : String, bs = utf8 s := by
  constructor
  · intro h
    induction h with
    | nil => exact ⟨"", rfl⟩
    | append h _ ih =>
      obtain ⟨c, hc⟩ := h.exists_char
      obtain ⟨s, hs⟩ := ih
      refine ⟨String.ofList (c :: s.toList), ?_⟩
      rw [utf8_eq_flatMap, String.toList_ofList, List.flatMap_cons, ← utf8_eq_flatMap, hc, hs]
  · rintro ⟨s, rfl⟩
    rw [utf8_eq_flatMap]
    induction s.toList with
    | nil => exact .nil
    | cons c cs ih => exact .append (encodesChar_utf8EncodeChar c) ih

theorem ofUtf8?_eq_none_iff {bs : Bytes} : ofUtf8? bs = none ↔ ¬WellFormed bs := by
  simp only [Option.eq_none_iff_forall_ne_some, ne_eq, ofUtf8?_eq_some_iff, wellFormed_iff,
    not_exists]

/-! ### Spoiled bytes -/

/-- A byte that starts a layout starts one wherever it stands. -/
theorem WellFormed.of_append {front rest : Bytes} {a : UInt8} (h : WellFormed (front ++ a :: rest))
    (ha : ¬IsTail a) : WellFormed (a :: rest) := by
  generalize hbs : front ++ a :: rest = bs at h
  induction h generalizing front with
  | nil => simp at hbs
  | @append chunk rest' n hchunk hrest ih =>
    rcases List.append_eq_append_iff.1 hbs with ⟨more, hmore, hcut⟩ | ⟨more, hfront, hmore⟩
    · cases more with
      | nil =>
        have heq : a :: rest = rest' := hcut
        rwa [heq]
      | cons b more =>
        obtain ⟨rfl, hrest'⟩ := List.cons.inj hcut
        cases front with
        | nil =>
          have heq : a :: rest = chunk ++ rest' := hbs
          rw [heq]
          exact .append hchunk hrest
        | cons x front =>
          -- behind the first byte of a chunk there are only bytes that continue it
          obtain ⟨x', tails, hcons, -, htails, -⟩ := hchunk.laid.exists_cons
          have hmem : a ∈ tails := by
            rw [(List.cons.inj (hcons.symm.trans hmore)).2]
            exact List.mem_append_right front List.mem_cons_self
          exact absurd (htails a hmem) ha
    · exact ih hmore.symm

theorem WellFormed.exists_chunk {a : UInt8} {rest : Bytes} (h : WellFormed (a :: rest)) :
    ∃ chunk rest' n, EncodesChar chunk n ∧ a :: rest = chunk ++ rest' := by
  generalize hbs : a :: rest = bs at h
  cases h with
  | nil => nomatch hbs
  | @append chunk rest' n hchunk _ => exact ⟨chunk, rest', n, hchunk, rfl⟩

/-- Where a layout ends is told by its first byte. -/
theorem Laid.append_inj {bs bs' back back' : Bytes} {n n' : Nat} (h : Laid bs n) (h' : Laid bs' n')
    (heq : bs ++ back = bs' ++ back') : bs = bs' := by
  obtain ⟨a, tails, rfl, -, -, hlen⟩ := h.exists_cons
  obtain ⟨a', tails', rfl, -, -, hlen'⟩ := h'.exists_cons
  obtain ⟨rfl, htails⟩ := List.cons.inj heq
  rw [List.append_inj_left htails (hlen.trans hlen'.symm)]

/-- A layout that is longer than it has to be, or of a number that is no character, spoils all bytes around it. -/
theorem not_wellFormed_of_laid {chunk : Bytes} {n : Nat} (h : Laid chunk n)
    (hbad : n < leastOf chunk.length ∨ (0xD800 ≤ n ∧ n ≤ 0xDFFF) ∨ 0x10FFFF < n)
    (front back : Bytes) : ¬WellFormed (front ++ chunk ++ back) := by
  intro hwell
  obtain ⟨a, tails, hcons, ha, -⟩ := h.exists_cons
  rw [hcons, List.append_assoc] at hwell
  obtain ⟨chunk', rest, n', hchunk, heq⟩ := (hwell.of_append ha).exists_chunk
  have hsame : chunk = chunk' := h.append_inj hchunk.laid (by rw [hcons]; exact heq)
  rw [← hsame] at hchunk
  have hn : n = n' := h.eq_of_laid hchunk.laid
  have hshortest := hchunk.shortest
  have hcharacter := hchunk.character
  omega

/-- So does the start of a layout that breaks off: no byte that could continue it comes next. -/
theorem not_wellFormed_of_cut {start missing : Bytes} {n : Nat} (h : Laid (start ++ missing) n)
    (hstart : start ≠ []) (hmissing : missing ≠ []) {back : Bytes}
    (hback : ∀ b, back.head? = some b → ¬IsTail b) (front : Bytes) :
    ¬WellFormed (front ++ start ++ back) := by
  intro hwell
  obtain ⟨a, start', rfl⟩ := List.exists_cons_of_ne_nil hstart
  obtain ⟨a', tails, hcons, ha, -, hlen⟩ := h.exists_cons
  obtain ⟨rfl, rfl⟩ := List.cons.inj hcons
  rw [List.append_assoc] at hwell
  obtain ⟨chunk, rest, n', hchunk, heq⟩ := (hwell.of_append ha).exists_chunk
  obtain ⟨b, tails, rfl, -, htails, hlen'⟩ := hchunk.laid.exists_cons
  obtain ⟨rfl, hrest⟩ := List.cons.inj heq
  have hshort : start'.length < tails.length := by
    have hpos : 0 < missing.length := List.length_pos_iff.2 hmissing
    have hsum : start'.length + missing.length = tailCount a := List.length_append.symm.trans hlen
    omega
  rcases List.append_eq_append_iff.1 hrest with ⟨more, hmore, hnext⟩ | ⟨more, hmore, -⟩
  · cases more with
    | nil =>
      rw [hmore, List.append_nil] at hshort
      exact Nat.lt_irrefl _ hshort
    | cons b more =>
      have hmem : b ∈ tails := by
        rw [hmore]
        exact List.mem_append_right start' List.mem_cons_self
      exact hback b (by rw [hnext]; rfl) (htails b hmem)
  · rw [hmore, List.length_append] at hshort
    omega

end LeveledLog.Text
