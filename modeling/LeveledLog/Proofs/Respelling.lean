import LeveledLog.Proofs.LetterCase

/-!
# Texts that are spelled in another way

A level may be spelled with other blanks around it and with other letters in capitals.  Reading it is told here as an
equation for each of the two: blanks around a text are not seen at all, and lower case reaches only the text that an
error quotes.  What an error quotes is the text without its blanks, which is refused again in the same way, and the
sentence that reports an error tells which text that was.

* `Level.parse_surrounded`: blanks around a text make no difference;
* `Level.read?_lower`, `Level.parse_lower`: letter case makes one only in the text that is quoted;
* `Level.ParseError.message_unrecognized_inj`: a report tells the text that it quotes;
* `Level.parse_respelled`: all of that for any two spellings.
-/

namespace LeveledLog

namespace Text

/-- A text that has only blanks. -/
def AllBlank (s : String) : Prop :=
  ∀ c ∈ s.toList, isBlank c = true

theorem allBlank_empty : AllBlank "" :=
  fun _ h => absurd h List.not_mem_nil

/-- Blanks around a text are taken off. -/
theorem trim_surrounded {front back : String} (hfront : AllBlank front) (hback : AllBlank back)
    (s : String) : trim (front ++ s ++ back) = trim s := by
  rw [← String.toList_inj, toList_trim, String.toList_append, String.toList_append,
    trimmed_append hfront hback, toList_trim]

end Text

namespace Level

/-! ### Blanks -/

theorem parse_surrounded {front back : String} (hfront : Text.AllBlank front)
    (hback : Text.AllBlank back) (s : String) : parse (front ++ s ++ back) = parse s := by
  rw [parse, Text.trim_surrounded hfront hback, parse]

/-! ### Letter case -/

/-- Neither a numeral nor a name is read otherwise in lower case. -/
theorem read?_lower (text : String) : read? (Text.lower text) = read? text := by
  rw [read?, Text.toList_lower, Text.Decimal.int32?_map_toLower, Severity.ofName?, Text.lower_lower,
    ← Severity.ofName?, read?]

/-- An error with the text that it quotes in lower case. -/
def ParseError.lower : ParseError → ParseError
  | .empty => .empty
  | .unrecognized text => .unrecognized (Text.lower text)

theorem ParseError.refusal_lower (text : String) :
    refusal (Text.lower text) = (refusal text).lower := by
  rw [refusal, refusal]
  by_cases h : text = ""
  · rw [if_pos (Text.lower_eq_empty_iff.2 h), if_pos h]
    rfl
  · rw [if_neg (mt Text.lower_eq_empty_iff.1 h), if_neg h]
    rfl

/-- A text in lower case has the same answer, with a quoted text in lower case too. -/
theorem parse_lower (s : String) : parse (Text.lower s) = (parse s).mapError ParseError.lower := by
  rw [parse, Text.trim_lower, read?_lower, ParseError.refusal_lower, parse]
  cases read? (Text.trim s) <;> rfl

/-- Two answers that differ at most in the letter case of a quoted text. -/
inductive Alike : Except ParseError Level → Except ParseError Level → Prop
  | ok (l : Level) : Alike (.ok l) (.ok l)
  | empty : Alike (.error .empty) (.error .empty)
  | unrecognized {t u : String} (h : Text.SameButCase t u) :
    Alike (.error (.unrecognized t)) (.error (.unrecognized u))

theorem alike_of_mapError_eq {a b : Except ParseError Level}
    (h : a.mapError ParseError.lower = b.mapError ParseError.lower) : Alike a b := by
  cases a with
  | ok l =>
    cases b with
    | ok m => rw [Except.ok.inj h]; exact .ok m
    | error e => nomatch h
  | error d =>
    cases b with
    | ok m => nomatch h
    | error e =>
      have hde : d.lower = e.lower := Except.error.inj h
      cases d with
      | empty =>
        cases e with
        | empty => exact .empty
        | unrecognized u => nomatch hde
      | unrecognized t =>
        cases e with
        | empty => nomatch hde
        | unrecognized u =>
          exact .unrecognized (Text.sameButCase_iff.2 (ParseError.unrecognized.inj hde))

theorem alike_parse {s t : String} (h : Text.SameButCase s t) : Alike (parse s) (parse t) := by
  refine alike_of_mapError_eq ?_
  rw [← parse_lower, ← parse_lower, Text.sameButCase_iff.1 h]

/-! ### Reports -/

theorem ParseError.message_unrecognized (t : String) :
    (unrecognized t).message = "unrecognized message level `" ++ t ++ "`" := rfl

theorem ParseError.message_unrecognized_inj {t u : String}
    (h : (unrecognized t).message = (unrecognized u).message) : t = u := by
  rwa [message_unrecognized, message_unrecognized, String.append_left_inj,
    String.append_right_inj] at h

/-- Only the report of a refused text has the mark in which it quotes the text. -/
theorem ParseError.message_unrecognized_ne (t : String) :
    (unrecognized t).message ≠ empty.message := by
  have hmark : '`' ∈ (unrecognized t).message.toList := by
    rw [message_unrecognized, String.toList_append]
    exact List.mem_append_right _ (by decide)
  have hnone : '`' ∉ empty.message.toList := by decide +kernel
  intro h
  rw [h] at hmark
  exact hnone hmark

/-- Blanks around a text do not change its answer, error included.  Of two texts that differ at most in the case of
ASCII letters both are the same level, or both are empty, or both are refused and quoted as texts that differ at most
so.  What is quoted is not empty and has no blank at an end, the text is that with only blanks around it, and read
again it is refused in the same way.  Two reports are the same sentence only if they quote the same text, and none is
the sentence for an empty text. -/
theorem parse_respelled :
    (∀ s front back : String, (∀ c ∈ front.toList, Text.isBlank c = true) →
        (∀ c ∈ back.toList, Text.isBlank c = true) → parse (front ++ s ++ back) = parse s) ∧
      (∀ s s' : String, Text.SameButCase s s' →
        (∃ l, parse s = .ok l ∧ parse s' = .ok l) ∨
          (parse s = .error .empty ∧ parse s' = .error .empty) ∨
          ∃ t t', parse s = .error (.unrecognized t) ∧ parse s' = .error (.unrecognized t') ∧
            Text.SameButCase t t') ∧
      (∀ s t : String, parse s = .error (.unrecognized t) →
        t ≠ "" ∧ (∀ c, t.toList.head? = some c → Text.isBlank c = false) ∧
          (∀ c, t.toList.getLast? = some c → Text.isBlank c = false) ∧
          (∃ front back : String, (∀ c ∈ front.toList, Text.isBlank c = true) ∧
            (∀ c ∈ back.toList, Text.isBlank c = true) ∧ s = front ++ t ++ back) ∧
          parse t = .error (.unrecognized t)) ∧
      (∀ t t' : String, (ParseError.unrecognized t).message = (ParseError.unrecognized t').message →
        t = t') ∧
      ∀ t : String, (ParseError.unrecognized t).message ≠ ParseError.empty.message := by
  refine ⟨fun s front back hfront hback => parse_surrounded hfront hback s, ?_, ?_,
    fun t t' => ParseError.message_unrecognized_inj, ParseError.message_unrecognized_ne⟩
  · intro s s' hs
    have halike : Alike (parse s) (parse s') := alike_parse hs
    generalize parse s = a at halike ⊢
    generalize parse s' = a' at halike ⊢
    cases halike with
    | ok l => exact .inl ⟨l, rfl, rfl⟩
    | empty => exact .inr (.inl ⟨rfl, rfl⟩)
    | unrecognized h => exact .inr (.inr ⟨_, _, rfl, rfl, h⟩)
  · intro s t hs
    obtain ⟨htrim, hne, hnone⟩ := parse_eq_unrecognized_iff.1 hs
    obtain ⟨front, back, hfront, hback, hlist, hbare⟩ := Text.trimsTo_iff.2 htrim.symm
    have hsplit : s = String.ofList front ++ t ++ String.ofList back := by
      rw [← String.toList_inj, String.toList_append, String.toList_append, String.toList_ofList,
        String.toList_ofList, hlist]
    have hagain : Text.trim t = t := by
      rw [← String.toList_inj, Text.toList_trim, Text.trimmed_of_bare hbare]
    refine ⟨hne, hbare.head, hbare.last,
      ⟨String.ofList front, String.ofList back, ?_, ?_, hsplit⟩,
      parse_eq_unrecognized_iff.2 ⟨hagain, hne, hnone⟩⟩
    · rwa [String.toList_ofList]
    · rwa [String.toList_ofList]

/-- A name that no severity has, between blanks beyond ASCII and in two spellings. -/
theorem parse_respelled_unknown_name :
    (∀ c ∈ "\u3000".toList, Text.isBlank c = true) ∧ (∀ c ∈ "\t\n".toList, Text.isBlank c = true) ∧
      Text.SameButCase "Größe" "gRößE" ∧
      parse ("\u3000" ++ "Größe" ++ "\t\n") = .error (.unrecognized "Größe") ∧
      (∃ t, parse "gRößE" = .error (.unrecognized t) ∧ Text.SameButCase "Größe" t) ∧
      (ParseError.unrecognized "Größe").message = (ParseError.unrecognized "Größe").message ∧
      "Größe" = "Größe" ∧ "Größe" ≠ "" := by
  obtain ⟨hblanks, hcase, hquoted, hreports, -⟩ := parse_respelled
  have hfront : ∀ c ∈ "\u3000".toList, Text.isBlank c = true :=
    List.all_eq_true.1 (by rfl)
  have hback : ∀ c ∈ "\t\n".toList, Text.isBlank c = true :=
    List.all_eq_true.1 (by rfl)
  have htwin : Text.SameButCase "Größe" "gRößE" := Text.sameButCase_iff.2 (by decide +kernel)
  have hparse : parse "Größe" = .error (.unrecognized "Größe") :=
    parse_eq_unrecognized_iff.2 (by decide +kernel)
  refine ⟨hfront, hback, htwin, (hblanks "Größe" _ _ hfront hback).trans hparse, ?_, rfl,
    hreports "Größe" "Größe" rfl, (hquoted "Größe" "Größe" hparse).1⟩
  rcases hcase "Größe" "gRößE" htwin with ⟨l, hl, -⟩ | ⟨hempty, -⟩ | ⟨t, t', ht, ht', htwin'⟩
  · nomatch hparse.symm.trans hl
  · nomatch hparse.symm.trans hempty
  · have hsame : t = "Größe" :=
      ParseError.unrecognized.inj (Except.error.inj (ht.symm.trans hparse))
    exact ⟨t', ht', hsame ▸ htwin'⟩

end Level

end LeveledLog
