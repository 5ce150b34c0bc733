import LeveledLog.Proofs.LevelOrder
import LeveledLog.Proofs.Respelling

/-!
# The tables of levels

Which levels have a name is told by three tables: the list of named levels, the labels that go with ranks, and the
names that are read.  Whether a level has a name and what is shown of it follow its label.  The tables agree on every
rank, and what is shown of a level with a name is read as that level in every spelling.  What is shown of any other
level is read as nothing.

* `Level.mem_named_iff_isNamed`: the levels of the list are those with a label;
* `Level.parse_label`: the label of a severity is read as its level;
* `Level.display_eq_unknownLabel_iff`: which levels are shown by the mark;
* `Level.parse_respelled_display`: what is shown of a level with a name is read in every spelling;
* `Level.tables_agree`: the three tables, and the list of named levels.
-/

namespace LeveledLog

namespace Level

/-! ### Labels -/

theorem label_ne_unknownLabel (s : Severity) : s.label ≠ unknownLabel := by
  cases s <;> decide

theorem parse_label (s : Severity) : parse s.label = .ok s.level := by
  rw [parse_eq_ok_iff]
  cases s <;> decide +kernel

theorem parse_unknownLabel : parse unknownLabel = .error (.unrecognized "????") :=
  parse_eq_unrecognized_iff.2 (by decide +kernel)

theorem mem_named_iff_isNamed {l : Level} : l ∈ named ↔ l.isNamed = true := by
  rw [mem_named, isNamed_iff]

theorem isNamed_iff_exists_label {l : Level} :
    l.isNamed = true ↔ ∃ text, l.label? = some text :=
  Option.isSome_iff_exists

theorem display_eq_unknownLabel_iff {l : Level} : l.display = unknownLabel ↔ l ∉ named := by
  constructor
  · intro h hnamed
    obtain ⟨s, rfl⟩ := mem_named.1 hnamed
    exact label_ne_unknownLabel s h
  · intro h
    exact display_of_isNamed_eq_false (Bool.eq_false_iff.2 (mt mem_named_iff_isNamed.2 h))

theorem display_inj_of_mem_named {a b : Level} (ha : a ∈ named) (hb : b ∈ named)
    (h : a.display = b.display) : a = b := by
  obtain ⟨s, rfl⟩ := mem_named.1 ha
  obtain ⟨t, rfl⟩ := mem_named.1 hb
  rw [display_level, display_level] at h
  rw [Severity.label_inj h]

/-! ### Spellings -/

theorem parse_eq_ok_of_sameButCase {s t : String} {l : Level} (h : Text.SameButCase s t)
    (hs : parse s = .ok l) : parse t = .ok l := by
  have halike : Alike (parse s) (parse t) := alike_parse h
  rw [hs] at halike
  generalize parse t = a at halike ⊢
  cases halike
  rfl

theorem parse_respelled_display {l : Level} (h : l ∈ named) {front shown back : String}
    (hfront : Text.AllBlank front) (hback : Text.AllBlank back)
    (hcase : Text.SameButCase l.display shown) : parse (front ++ shown ++ back) = .ok l := by
  obtain ⟨s, rfl⟩ := mem_named.1 h
  rw [display_level] at hcase
  rw [parse_surrounded hfront hback]
  exact parse_eq_ok_of_sameButCase hcase (parse_label s)

/-! ### The list of named levels -/

theorem pairwise_named : named.Pairwise (· < ·) := by
  decide

theorem nodup_named : named.Nodup :=
  pairwise_named.imp ne_of_lt

/-- Of every rank: that its level is in the list of named levels, that it is one, that it has a label, that it is not
shown by the mark, and that what is shown of it is read as that level, in any mixture of ASCII cases and between any
blanks, is one and the same.  What is shown of any other level is refused, with the mark as the text that is quoted.
The list ascends strictly and has each of its levels once, and no two of them are shown alike. -/
theorem tables_agree :
    (∀ rank : Int32,
      let l : Level := ⟨rank⟩
      [l ∈ named, l.isNamed = true, ∃ text, l.label? = some text, l.display ≠ "????",
          ∀ front shown back : String, (∀ c ∈ front.toList, Text.isBlank c = true) →
            (∀ c ∈ back.toList, Text.isBlank c = true) → Text.SameButCase l.display shown →
              parse (front ++ shown ++ back) = .ok l].TFAE ∧
        (l ∉ named → parse l.display = .error (.unrecognized "????"))) ∧
      named.Pairwise (· < ·) ∧ (∀ l ∈ named, named.count l = 1) ∧
      ∀ a ∈ named, ∀ b ∈ named, a.display = b.display → a = b := by
  refine ⟨?_, pairwise_named, fun l hl => List.count_eq_one_of_mem nodup_named hl,
    fun a ha b hb => display_inj_of_mem_named ha hb⟩
  intro rank l
  refine ⟨?_, ?_⟩
  · tfae_have 1 ↔ 2 := mem_named_iff_isNamed
    tfae_have 2 ↔ 3 := isNamed_iff_exists_label
    tfae_have 4 → 1 := fun hshown =>
      Decidable.not_not.1 fun hnot => hshown (display_eq_unknownLabel_iff.2 hnot)
    tfae_have 1 → 5 := by
      intro hl front shown back hfront hback hcase
      exact parse_respelled_display hl hfront hback hcase
    tfae_have 5 → 4 := by
      intro hread hshown
      have hmark : parse ("" ++ l.display ++ "") = .ok l :=
        hread "" l.display "" Text.allBlank_empty Text.allBlank_empty (Text.SameButCase.refl _)
      rw [String.empty_append, String.append_empty, hshown] at hmark
      nomatch parse_unknownLabel.symm.trans hmark
    tfae_finish
  · intro hl
    rw [display_eq_unknownLabel_iff.2 hl]
    exact parse_unknownLabel

/-- A level with a name, which has a shorter spelling too, and the one in the gap between the names. -/
theorem tables_agree_on_warning_and_gap :
    (⟨-2⟩ : Level) ∈ named ∧ (⟨0⟩ : Level) ∉ named ∧
      (∀ c ∈ "\u2003".toList, Text.isBlank c = true) ∧ (∀ c ∈ "\n".toList, Text.isBlank c = true) ∧
      Text.SameButCase (display ⟨-2⟩) "wArNiNg" ∧
      parse ("\u2003" ++ "wArNiNg" ++ "\n") = .ok ⟨-2⟩ ∧
      parse (display ⟨0⟩) = .error (.unrecognized "????") ∧ named.count ⟨-2⟩ = 1 ∧
      display ⟨-2⟩ = display ⟨-2⟩ ∧ (⟨-2⟩ : Level) = ⟨-2⟩ := by
  obtain ⟨hranks, -, hcount, hinj⟩ := tables_agree
  have hnamed : (⟨-2⟩ : Level) ∈ named := by decide
  have hgap : (⟨0⟩ : Level) ∉ named := by decide
  have hfront : ∀ c ∈ "\u2003".toList, Text.isBlank c = true :=
    List.all_eq_true.1 (by rfl)
  have hback : ∀ c ∈ "\n".toList, Text.isBlank c = true :=
    List.all_eq_true.1 (by rfl)
  have hcase : Text.SameButCase (display ⟨-2⟩) "wArNiNg" :=
    Text.sameButCase_iff.2 (by decide +kernel)
  have hread := ((hranks (-2)).1.out 0 4).1 hnamed
  exact ⟨hnamed, hgap, hfront, hback, hcase, hread _ _ _ hfront hback hcase, (hranks 0).2 hgap,
    hcount _ hnamed, rfl, hinj _ hnamed _ hnamed rfl⟩

end Level

end LeveledLog
