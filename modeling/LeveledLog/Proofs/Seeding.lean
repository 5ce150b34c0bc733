import LeveledLog.Program.Basic
import LeveledLog.Proofs.Respelling
import LeveledLog.Proofs.WellFormedBytes

/-!
# Making a logger from the environment

A logger can be made from any value of the variable.  Bytes that are no text, and a text that stands for no level, give
the default threshold, and nothing is taken from a part of them.

* `Level.not_standsFor_of_out_of_range`: a numeral with a value out of range stands for nothing;
* `thresholdOf_of_not_wellFormed`, `thresholdOf_of_parse_error`: the two ways to the default threshold;
* `thresholdOf_every_value`: the threshold for every value, and the logger that is made with it.
-/

namespace LeveledLog

/-! ### Texts that stand for no level -/

namespace Level

theorem numeral_value_unique {cs : List Char} {n m : Int} (hn : Text.Numeral cs n)
    (hm : Text.Numeral cs m) : n = m :=
  Option.some.inj
    ((Text.Decimal.int?_eq_some_iff.2 hn).symm.trans (Text.Decimal.int?_eq_some_iff.2 hm))

theorem not_standsFor_of_out_of_range {text : String} {n : Int} (h : Text.Numeral text.toList n)
    (hrange : n < -2147483648 ∨ 2147483647 < n) : ¬∃ m, StandsFor text m := by
  rintro ⟨m, ⟨hm, hlo, hhi⟩ | hname⟩
  · rw [numeral_value_unique h hm] at hrange
    omega
  · exact not_numeral_and_named ⟨h, hname⟩

theorem not_standsFor_empty : ¬∃ m, StandsFor "" m :=
  read?_eq_none_iff.1 read?_empty

theorem exists_parse_error_iff {s : String} :
    (∃ e, parse s = .error e) ↔ ¬∃ m, StandsFor (Text.trim s) m := by
  rw [← read?_eq_none_iff]
  constructor
  · rintro ⟨e, he⟩
    exact (parse_eq_error_iff.1 he).1
  · intro h
    exact ⟨_, parse_eq_error_iff.2 ⟨h, rfl⟩⟩

end Level

namespace Environment

/-! ### The threshold for a value -/

theorem thresholdOf_of_not_wellFormed {bs : Bytes} (h : ¬Text.WellFormed bs) :
    thresholdOf (some bs) = defaultThreshold := by
  have hnone : Value.text? (some bs) = none := Text.ofUtf8?_eq_none_iff.2 h
  rw [thresholdOf, hnone]
  rfl

theorem thresholdOf_of_parse_error {s : String} {e : Level.ParseError}
    (h : Level.parse s = .error e) : thresholdOf (.ofText s) = defaultThreshold := by
  rw [thresholdOf, Value.text?_ofText, Option.map_some, parseRank_of_error h]

theorem thresholdOf_of_not_standsFor {s t : String} (hs : Text.TrimsTo s t)
    (ht : ¬∃ m, Level.StandsFor t m) : thresholdOf (.ofText s) = defaultThreshold := by
  obtain rfl := Text.trimsTo_iff.1 hs
  obtain ⟨e, he⟩ := Level.exists_parse_error_iff.2 ht
  exact thresholdOf_of_parse_error he

/-- A value that is not set gives the threshold 1, and so do bytes that are not the encoding of a text: a layout of a
number that is longer than it has to be, one of a surrogate or of a number that is too large for a character, and the
start of a layout that breaks off spoil the bytes that they stand in, wherever that is.  All other bytes are the encoding
of exactly one text, which gives the level that is read from it, or else the threshold 1, as does a text that without
its outer blanks is empty, is a numeral with a value out of range, or stands for nothing.  The logger that is made from
a value has this threshold, with colors on, and so has the shared one of a program at the start. -/
theorem thresholdOf_every_value :
    thresholdOf none = ⟨1⟩ ∧
      (∀ bs : Bytes, ¬Text.WellFormed bs → thresholdOf (some bs) = ⟨1⟩) ∧
      (∀ (front chunk back : Bytes) (n : Nat), Text.Laid chunk n →
        n < Text.leastOf chunk.length ∨ (0xD800 ≤ n ∧ n ≤ 0xDFFF) ∨ 0x10FFFF < n →
          thresholdOf (some (front ++ chunk ++ back)) = ⟨1⟩) ∧
      (∀ (front start missing back : Bytes) (n : Nat), Text.Laid (start ++ missing) n →
        start ≠ [] → missing ≠ [] → (∀ b, back.head? = some b → ¬Text.IsTail b) →
          thresholdOf (some (front ++ start ++ back)) = ⟨1⟩) ∧
      (∀ bs : Bytes, Text.WellFormed bs ↔ ∃! s : String, bs = Text.utf8 s) ∧
      (∀ (s : String) (l : Level), Level.parse s = .ok l → thresholdOf (some (Text.utf8 s)) = l) ∧
      (∀ (s : String) (e : Level.ParseError), Level.parse s = .error e →
        thresholdOf (some (Text.utf8 s)) = ⟨1⟩) ∧
      (∀ s t : String, Text.TrimsTo s t →
        t = "" ∨ (∃ n, Text.Numeral t.toList n ∧ (n < -2147483648 ∨ 2147483647 < n)) ∨
            (¬∃ n, Level.StandsFor t n) →
          thresholdOf (some (Text.utf8 s)) = ⟨1⟩) ∧
      ∀ value : Value, Logger.ofEnvironment value = ⟨thresholdOf value, true⟩ ∧
        ∀ identity, (Program.start identity value).logger = ⟨thresholdOf value, true⟩ := by
  have hbad : ∀ bs : Bytes, ¬Text.WellFormed bs → thresholdOf (some bs) = ⟨1⟩ := fun bs =>
    thresholdOf_of_not_wellFormed
  refine ⟨rfl, hbad, ?_, ?_, ?_, fun s l => thresholdOf_ofText,
    fun s e => thresholdOf_of_parse_error, ?_, fun value => ⟨rfl, fun _ => rfl⟩⟩
  · intro front chunk back n hlaid hn
    exact hbad _ (Text.not_wellFormed_of_laid hlaid hn front back)
  · intro front start missing back n hlaid hstart hmissing hback
    exact hbad _ (Text.not_wellFormed_of_cut hlaid hstart hmissing hback front)
  · intro bs
    rw [Text.wellFormed_iff]
    constructor
    · rintro ⟨s, rfl⟩
      exact ⟨s, rfl, fun s' hs' => (Text.utf8_inj hs').symm⟩
    · rintro ⟨s, hs, -⟩
      exact ⟨s, hs⟩
  · intro s t hs hnone
    refine thresholdOf_of_not_standsFor hs ?_
    rcases hnone with rfl | ⟨n, hn, hrange⟩ | hnone
    · exact Level.not_standsFor_empty
    · exact Level.not_standsFor_of_out_of_range hn hrange
    · exact hnone

/-- The digit 5 in two bytes, a blank that breaks off before the digit, a byte that no text has, a name between blanks,
no name, and a numeral that is one too large. -/
theorem thresholdOf_every_value_near_five :
    Text.Laid [0xC0, 0xB5] 0x35 ∧ thresholdOf (some ([0x20] ++ [0xC0, 0xB5] ++ [])) = ⟨1⟩ ∧
      Text.Laid ([0xE2, 0x80] ++ [0x83]) 0x2003 ∧ ¬Text.IsTail 0x35 ∧
      thresholdOf (some ([0x35] ++ [0xE2, 0x80] ++ [0x35])) = ⟨1⟩ ∧
      ¬Text.WellFormed [0x35, 0xFF] ∧ thresholdOf (some [0x35, 0xFF]) = ⟨1⟩ ∧
      Level.parse "\u2003Debug " = .ok ⟨5⟩ ∧
      thresholdOf (some (Text.utf8 "\u2003Debug ")) = ⟨5⟩ ∧
      Level.parse "5x" = .error (.unrecognized "5x") ∧
      thresholdOf (some (Text.utf8 "5x")) = ⟨1⟩ ∧
      Text.TrimsTo "2147483648\n" "2147483648" ∧
      Text.Numeral "2147483648".toList 2147483648 ∧
      thresholdOf (some (Text.utf8 "2147483648\n")) = ⟨1⟩ := by
  obtain ⟨-, hbad, hlaid, hcut, -, hok, herror, hnone, -⟩ := thresholdOf_every_value
  have hlong : Text.Laid [0xC0, 0xB5] 0x35 := .two (by decide) (by decide) (by decide)
  have hblank : Text.Laid ([0xE2, 0x80] ++ [0x83]) 0x2003 :=
    .three (by decide) (by decide) (by decide) (by decide)
  have hdigit : ¬Text.IsTail 0x35 := by decide
  have hbyte : ¬Text.WellFormed [0x35, 0xFF] := Text.ofUtf8?_eq_none_iff.1 (by decide +kernel)
  have hname : Level.parse "\u2003Debug " = .ok ⟨5⟩ := Level.parse_eq_ok_iff.2 (by decide +kernel)
  have hunknown : Level.parse "5x" = .error (.unrecognized "5x") :=
    Level.parse_eq_unrecognized_iff.2 (by decide +kernel)
  have htrims : Text.TrimsTo "2147483648\n" "2147483648" := Text.trimsTo_iff.2 (by decide +kernel)
  have hnumeral : Text.Numeral "2147483648".toList 2147483648 :=
    Text.Decimal.int?_eq_some_iff.1 (by decide +kernel)
  refine ⟨hlong, hlaid _ _ _ _ hlong (.inl (by decide)), hblank, hdigit, ?_, hbyte, hbad _ hbyte,
    hname, hok _ _ hname, hunknown, herror _ _ hunknown, htrims, hnumeral,
    hnone _ _ htrims (.inr (.inl ⟨_, hnumeral, .inr (by decide)⟩))⟩
  refine hcut [0x35] [0xE2, 0x80] [0x83] [0x35] 0x2003 hblank (by decide) (by decide) ?_
  intro b hb
  rw [← Option.some.inj hb]
  exact hdigit

end Environment

end LeveledLog
