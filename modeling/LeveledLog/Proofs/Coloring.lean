import LeveledLog.Proofs.LineReading

/-!
# What colors change

Colors put an escape code in front of a label and the reset code behind it, and change nothing else of a header or of
a line.  The mark of an unknown level has its codes with colors on and off.  With colors off no other header has an
escape character, unless the caller's name brings one.

* `Header.render_of_unknown`, `Header.render_of_ne_unknown`: a header is a painted column with a rest behind it;
* `Header.labelColumn_of_ne_debug`, `Header.behindLabel_of_ne_debug`: column and rest outside debug mode;
* `Header.exists_labelColumn_eq`: the column starts with the text that stands for the level;
* `Header.escape_mem_render_iff`: when a header without colors has an escape character;
* `Logger.colors_only_insert_codes`: the headers and the lines of two loggers that differ in their colors.
-/

namespace LeveledLog

/-! ### Escape characters in fields -/

/-- Filling a column brings spaces only. -/
theorem Text.mem_pad_iff {c : Char} (hc : c ≠ ' ') {s : String} {width : Nat} :
    c ∈ (pad s width).toList ↔ c ∈ s.toList := by
  rw [toList_pad, List.mem_append]
  constructor
  · intro h
    rcases h with htext | hspaces
    · exact htext
    · exact absurd (List.eq_of_mem_replicate hspaces) hc
  · exact Or.inl

theorem Level.escape_notMem_display (l : Level) : '\x1b' ∉ l.display.toList := by
  cases h : l.isNamed with
  | false =>
    rw [display_of_isNamed_eq_false h]
    decide
  | true =>
    obtain ⟨s, rfl⟩ := isNamed_iff.1 h
    cases s <;> decide

theorem Identity.escape_notMem_text (i : Identity) : '\x1b' ∉ i.text.toList := by
  have hrepr : ∀ n : Nat, '\x1b' ∉ n.repr.toList := Text.notMem_repr (by decide)
  have hopen : '\x1b' ∉ "[U=".toList := by decide
  have hmid : '\x1b' ∉ ',' :: "P=".toList := by decide
  have hclose : '\x1b' ∉ [']'] := by decide
  rw [Identity.toList_text, ← List.cons_append]
  simp only [List.mem_append, hrepr, hopen, hmid, hclose, or_self, not_false_eq_true]

theorem Caller.escape_mem_display_iff {c : Caller} :
    '\x1b' ∈ c.display.toList ↔ '\x1b' ∈ c.name.toList := by
  simp [display, String.toList_append]

namespace Header

/-! ### The painted column and the rest -/

/-- What stands in the label's column of a header, without its color codes. -/
def labelColumn (level threshold : Level) : String :=
  match Layout.select level threshold with
  | .unknown => Text.pad (Level.unknownLabel ++ ":") labelWidth
  | .standard label => Text.pad (label ++ ":") labelWidth
  | .debug => Text.pad level.display labelWidth

/-- What stands behind the label's column of a header and its color codes. -/
def behindLabel (level threshold : Level) (caller : Caller) (identity : Identity) : String :=
  match Layout.select level threshold with
  | .unknown => " "
  | .standard _ => " "
  | .debug => Text.pad identity.text identityWidth ++ Text.pad caller.display callerWidth

variable {level threshold : Level}

theorem render_of_unknown (h : Layout.select level threshold = .unknown) (colored : Bool)
    (caller : Caller) (identity : Identity) :
    render level threshold colored caller identity =
      paint true .alert (labelColumn level threshold) ++
        behindLabel level threshold caller identity := by
  rw [render, labelColumn, behindLabel, h]
  rfl

theorem render_of_ne_unknown (h : Layout.select level threshold ≠ .unknown) (colored : Bool)
    (caller : Caller) (identity : Identity) :
    render level threshold colored caller identity =
      paint colored level.escape (labelColumn level threshold) ++
        behindLabel level threshold caller identity := by
  rw [render, labelColumn, behindLabel]
  cases hselect : Layout.select level threshold with
  | unknown => exact absurd hselect h
  | standard label => rfl
  | debug => exact String.append_assoc

theorem render_true_of_ne_unknown (h : Layout.select level threshold ≠ .unknown) (caller : Caller)
    (identity : Identity) :
    render level threshold true caller identity =
      Level.colorCode level.rank.toInt ++ labelColumn level threshold ++ "\x1b[0m" ++
        behindLabel level threshold caller identity := by
  rw [render_of_ne_unknown h, paint_true, Level.code_escape]
  rfl

theorem render_eq_of_unknown (h : Layout.select level threshold = .unknown) (c c' : Bool)
    (caller : Caller) (identity : Identity) :
    render level threshold c caller identity = render level threshold c' caller identity := by
  rw [render_of_unknown h, render_of_unknown h]

/-- Outside debug mode there is a colon behind the label, or behind the mark of an unknown level. -/
theorem labelColumn_of_ne_debug (h : Layout.select level threshold ≠ .debug) :
    labelColumn level threshold = Text.pad (level.display ++ ":") labelWidth := by
  rw [labelColumn]
  cases hselect : Layout.select level threshold with
  | unknown => rw [Level.display_of_isNamed_eq_false (Layout.select_eq_unknown_iff.1 hselect).1]
  | standard label =>
    rw [Level.display, (Layout.select_eq_standard_iff.1 hselect).1, Option.getD_some]
  | debug => exact absurd hselect h

theorem behindLabel_of_ne_debug (h : Layout.select level threshold ≠ .debug) (caller : Caller)
    (identity : Identity) : behindLabel level threshold caller identity = " " := by
  rw [behindLabel]
  cases hselect : Layout.select level threshold with
  | unknown => rfl
  | standard s => rfl
  | debug => exact absurd hselect h

/-- The column starts with the text that stands for the level. -/
theorem exists_labelColumn_eq (level threshold : Level) :
    ∃ fill : String, labelColumn level threshold = level.display ++ fill := by
  by_cases h : Layout.select level threshold = .debug
  · rw [labelColumn, h]
    show ∃ fill, Text.pad level.display labelWidth = level.display ++ fill
    rw [pad_eq_filled, filled]
    exact ⟨_, rfl⟩
  · rw [labelColumn_of_ne_debug h, pad_eq_filled, filled, String.append_assoc]
    exact ⟨_, rfl⟩

/-! ### Escape characters in a header -/

theorem escape_notMem_labelColumn (level threshold : Level) :
    '\x1b' ∉ (labelColumn level threshold).toList := by
  have hspace : '\x1b' ≠ ' ' := by decide
  have hdisplay : '\x1b' ∉ level.display.toList := level.escape_notMem_display
  by_cases h : Layout.select level threshold = .debug
  · rw [labelColumn, h]
    exact mt (Text.mem_pad_iff hspace).1 hdisplay
  · rw [labelColumn_of_ne_debug h, Text.mem_pad_iff hspace, String.toList_append, List.mem_append]
    exact not_or.2 ⟨hdisplay, by decide⟩

theorem escape_mem_behindLabel_iff {caller : Caller} {identity : Identity} :
    '\x1b' ∈ (behindLabel level threshold caller identity).toList ↔
      Layout.select level threshold = .debug ∧ '\x1b' ∈ caller.name.toList := by
  rw [behindLabel]
  cases Layout.select level threshold with
  | unknown => simp
  | standard s => simp
  | debug =>
    have hspace : '\x1b' ≠ ' ' := by decide
    simp [String.toList_append, Text.mem_pad_iff hspace, Identity.escape_notMem_text,
      Caller.escape_mem_display_iff]

/-- Without colors the escape character is in the mark of an unknown level, or it comes with the caller's name. -/
theorem escape_mem_render_iff {caller : Caller} {identity : Identity} :
    '\x1b' ∈ (render level threshold false caller identity).toList ↔
      Layout.select level threshold = .unknown ∨
        (Layout.select level threshold = .debug ∧ '\x1b' ∈ caller.name.toList) := by
  by_cases h : Layout.select level threshold = .unknown
  · have hcode : '\x1b' ∈ Escape.alert.code.toList := by decide
    rw [render_of_unknown h, paint_true]
    simp [String.toList_append, h, hcode]
  · rw [render_of_ne_unknown h, paint_false, String.toList_append, List.mem_append,
      escape_mem_behindLabel_iff, or_iff_right (escape_notMem_labelColumn level threshold),
      or_iff_right h]

end Header

/-! ### Two loggers that differ in their colors -/

theorem Logger.escape_mem_header_disableColor_iff {log : Logger} {identity : Identity} {level : Level}
    {caller : Caller} :
    '\x1b' ∈ (log.disableColor.header identity level caller).toList ↔
      (level.isNamed = false ∧ (level.rank.toInt < 5 ∨ log.threshold.rank.toInt < 5)) ∨
        ((5 ≤ log.threshold.rank.toInt ∧ (level.isNamed = true ∨ 5 < level.rank.toInt)) ∧
          '\x1b' ∈ caller.name.toList) := by
  rw [← Layout.select_eq_unknown_iff, ← Layout.select_eq_debug_iff]
  exact Header.escape_mem_render_iff

namespace Logger

/-- Colors never change what a line says.  Of two loggers with the same threshold the one with colors puts the code of
the level's color in front of the label's column and the reset code behind it, and the other one writes the same
header without the two codes.  A level that is unknown under the threshold has the codes of the mark with both.  So
with colors off the escape character is in the mark of an unknown level, or it comes with a caller's name in the debug
layout, and with colors on every header starts with a code.  The lines differ as the headers do, and none of them is
written without the other. -/
theorem colors_only_insert_codes (log : Logger) (identity : Identity) (level : Level)
    (caller : Caller) :
    let bright := ofThreshold log.threshold
    let plain := log.disableColor
    let l := level.rank.toInt
    let t := log.threshold.rank.toInt
    let unknown := level.isNamed = false ∧ (l < 5 ∨ t < 5)
    let debug := 5 ≤ t ∧ (level.isNamed = true ∨ 5 < l)
    ∃ fill rest : String,
      (¬unknown →
        bright.header identity level caller =
            Level.colorCode l ++ (level.display ++ fill) ++ "\x1b[0m" ++ rest ∧
          plain.header identity level caller = (level.display ++ fill) ++ rest) ∧
      (unknown →
        bright.header identity level caller =
            "\x1b[1;31m" ++ (level.display ++ fill) ++ "\x1b[0m" ++ rest ∧
          plain.header identity level caller = bright.header identity level caller) ∧
      ('\x1b' ∈ (plain.header identity level caller).toList ↔
        unknown ∨ (debug ∧ '\x1b' ∈ caller.name.toList)) ∧
      ∀ message : Message,
        let line := fun log : Logger => (log.emit identity level caller message).value
        (line bright = [] ↔ line plain = []) ∧
          (unknown → line bright = line plain) ∧
          (¬unknown → level ≤ log.threshold →
            line bright = Text.utf8 (Level.colorCode l ++ (level.display ++ fill) ++ "\x1b[0m" ++
                (rest ++ message.written ++ "\n")) ∧
              line plain = Text.utf8 ((level.display ++ fill) ++
                (rest ++ message.written ++ "\n"))) := by
  intro bright plain l t unknown debug
  have hselect : Layout.select level log.threshold = .unknown ↔ unknown :=
    Layout.select_eq_unknown_iff
  obtain ⟨fill, hfill⟩ := Header.exists_labelColumn_eq level log.threshold
  let rest := Header.behindLabel level log.threshold caller identity
  have hbright : ¬unknown → bright.header identity level caller =
      Level.colorCode l ++ (level.display ++ fill) ++ "\x1b[0m" ++ rest := by
    intro h
    rw [← hfill]
    exact Header.render_true_of_ne_unknown (mt hselect.1 h) caller identity
  have hplain : ¬unknown → plain.header identity level caller = (level.display ++ fill) ++ rest := by
    intro h
    rw [← hfill]
    exact Header.render_of_ne_unknown (mt hselect.1 h) false caller identity
  have hmarked : unknown → bright.header identity level caller =
      "\x1b[1;31m" ++ (level.display ++ fill) ++ "\x1b[0m" ++ rest := by
    intro h
    rw [← hfill]
    exact Header.render_of_unknown (hselect.2 h) true caller identity
  have hsame : unknown →
      plain.header identity level caller = bright.header identity level caller := by
    intro h
    exact Header.render_eq_of_unknown (hselect.2 h) false true caller identity
  refine ⟨fill, rest, fun h => ⟨hbright h, hplain h⟩, fun h => ⟨hmarked h, hsame h⟩,
    escape_mem_header_disableColor_iff, ?_⟩
  intro message line
  have hbrightNil : line bright = [] ↔ ¬level ≤ log.threshold := value_emit_eq_nil_iff
  have hplainNil : line plain = [] ↔ ¬level ≤ log.threshold := value_emit_eq_nil_iff
  have hline : ∀ logger : Logger, level ≤ logger.threshold → line logger =
      Text.utf8 (logger.header identity level caller ++ message.written ++ "\n") :=
    fun logger hpass => value_emit_of_le hpass identity caller message
  refine ⟨hbrightNil.trans hplainNil.symm, ?_, ?_⟩
  · intro h
    have hpass : level ≤ bright.threshold ↔ level ≤ plain.threshold := Iff.rfl
    have hmarkLine : (bright.emit identity level caller message).value =
        (plain.emit identity level caller message).value :=
      value_emit_eq_of_header_eq hpass (hsame h).symm message
    exact hmarkLine
  · intro h hle
    rw [hline bright hle, hline plain hle, hbright h, hplain h]
    simp only [String.append_assoc, and_self]

/-- A label that fills its column, and a caller whose name erases the screen; below, the mark of a level that is
written under the same threshold. -/
theorem colors_only_insert_codes_in_debug_mode :
    let caller : Caller := ⟨"erase\x1b[2J"⟩
    let log : Logger := ⟨⟨5⟩, true⟩
    let line := fun (log : Logger) (level : Level) => (log.emit ⟨0, 83⟩ level caller [.text "m"]).value
    (∃ fill rest : String,
      '\x1b' ∈ (log.disableColor.header ⟨0, 83⟩ ⟨3⟩ caller).toList ∧
        line log ⟨3⟩ =
          Text.utf8 ("\x1b[34m" ++ ("VERBOSE2" ++ fill) ++ "\x1b[0m" ++ (rest ++ "m" ++ "\n")) ∧
        line log.disableColor ⟨3⟩ = Text.utf8 ("VERBOSE2" ++ fill ++ (rest ++ "m" ++ "\n"))) ∧
      line log ⟨0⟩ = line log.disableColor ⟨0⟩ := by
  intro caller log line
  obtain ⟨fill, rest, -, -, hescape, hlines⟩ :=
    colors_only_insert_codes log ⟨0, 83⟩ ⟨3⟩ caller
  obtain ⟨_, _, -, -, -, hmarks⟩ := colors_only_insert_codes log ⟨0, 83⟩ ⟨0⟩ caller
  refine ⟨⟨fill, rest, hescape.2 (by decide +kernel), ?_⟩, (hmarks [.text "m"]).2.1 (by decide +kernel)⟩
  exact (hlines [.text "m"]).2.2 (by decide +kernel) (by decide +kernel)

end Logger

end LeveledLog
