import LeveledLog.Proofs.ColumnLaws
import LeveledLog.Proofs.Coloring

/-!
# Visible columns

A terminal does not show the escape codes of a header, so that what shows of it is the label's column and what stands
behind.  Outside debug mode that is a label with a colon, filled up to eight columns, and one space.  Two labels are of
eight characters themselves.  Their colons do not fit any more, and messages of these two levels start one column
further right than all the others.

* `Text.visible`: a text without its escape codes;
* `Header.visible_render_append`: what shows of a header, in every layout and with any text behind it;
* `Level.length_display_eq_eight_iff`: whose labels are as wide as their column;
* `Logger.columns_outside_debug_mode`: where messages start outside debug mode;
* `Logger.not_eight_columns_of_every_level`: a level whose messages do not start where those of most levels do.
-/

namespace LeveledLog

/-! ### What a terminal shows -/

namespace Text

/-- What shows of characters, if an escape code is open in front of them or not.  A code starts with the escape
character, and the next `m` ends it. -/
def shows : Bool → List Char → List Char
  | _, [] => []
  | true, c :: rest => shows (decide (c ≠ 'm')) rest
  | false, c :: rest => if c = '\x1b' then shows true rest else c :: shows false rest

/-- What shows of a text. -/
def visible (s : String) : String :=
  String.ofList (shows false s.toList)

theorem toList_visible (s : String) : (visible s).toList = shows false s.toList := by
  rw [visible, String.toList_ofList]

theorem shows_append_of_notMem {cs : List Char} (h : '\x1b' ∉ cs) (rest : List Char) :
    shows false (cs ++ rest) = cs ++ shows false rest := by
  induction cs with
  | nil => rfl
  | cons c cs ih =>
    obtain ⟨hc, hcs⟩ := not_or.1 (mt List.mem_cons.2 h)
    show (if c = '\x1b' then shows true (cs ++ rest) else c :: shows false (cs ++ rest)) = _
    rw [if_neg (Ne.symm hc), ih hcs, List.cons_append]

theorem shows_code_append (e : Escape) (rest : List Char) :
    shows false (e.code.toList ++ rest) = shows false rest := by
  cases e <;> rfl

/-- A text without the escape character shows in full. -/
theorem visible_append_of_notMem {s : String} (h : '\x1b' ∉ s.toList) (rest : String) :
    visible (s ++ rest) = s ++ visible rest := by
  rw [← String.toList_inj, String.toList_append, toList_visible, toList_visible, String.toList_append,
    shows_append_of_notMem h]

/-- An escape code does not show. -/
theorem visible_code_append (e : Escape) (rest : String) :
    visible (e.code ++ rest) = visible rest := by
  rw [← String.toList_inj, toList_visible, toList_visible, String.toList_append, shows_code_append]

end Text

open Text (visible)

/-! ### What shows of a header -/

namespace Header

theorem visible_paint_append {text : String} (h : '\x1b' ∉ text.toList) (colored : Bool) (e : Escape)
    (rest : String) : visible (paint colored e text ++ rest) = text ++ visible rest := by
  cases colored with
  | false => exact Text.visible_append_of_notMem h rest
  | true =>
    rw [paint_true, String.append_assoc, String.append_assoc, Text.visible_code_append,
      Text.visible_append_of_notMem h, Text.visible_code_append]

variable {level threshold : Level}

/-- The label's column shows without the codes around it, and what stands behind the column shows as it does alone. -/
theorem visible_render_append (colored : Bool) (caller : Caller) (identity : Identity) (rest : String) :
    visible (render level threshold colored caller identity ++ rest) =
      labelColumn level threshold ++
        visible (behindLabel level threshold caller identity ++ rest) := by
  have hcolumn : '\x1b' ∉ (labelColumn level threshold).toList :=
    escape_notMem_labelColumn level threshold
  by_cases h : Layout.select level threshold = .unknown
  · rw [render_of_unknown h, String.append_assoc, visible_paint_append hcolumn]
  · rw [render_of_ne_unknown h, String.append_assoc, visible_paint_append hcolumn]

/-- Outside debug mode the space behind the label's column shows, and the text behind the header as it does alone. -/
theorem visible_render_append_of_ne_debug (h : Layout.select level threshold ≠ .debug) (colored : Bool)
    (caller : Caller) (identity : Identity) (rest : String) :
    visible (render level threshold colored caller identity ++ rest) =
      Text.pad (level.display ++ ":") labelWidth ++ " " ++ visible rest := by
  have hspace : '\x1b' ∉ " ".toList := by decide
  rw [visible_render_append, labelColumn_of_ne_debug h, behindLabel_of_ne_debug h,
    Text.visible_append_of_notMem hspace, String.append_assoc]

end Header

/-! ### The widest labels -/

namespace Level

theorem length_display_le (l : Level) : l.display.length ≤ 8 := by
  cases h : l.isNamed with
  | false =>
    rw [display_of_isNamed_eq_false h]
    decide
  | true =>
    obtain ⟨s, rfl⟩ := isNamed_iff.1 h
    cases s <;> decide

/-- Two labels are as wide as their column. -/
theorem length_display_eq_eight_iff {l : Level} :
    l.display.length = 8 ↔ l.rank.toInt = 3 ∨ l.rank.toInt = 4 := by
  cases h : l.isNamed with
  | false =>
    have hne : ∀ s : Severity, l.rank.toInt ≠ s.rank.toInt := toInt_rank_ne (isNamed_eq_false_iff.1 h)
    have hshown : l.display.length ≠ 8 := by
      rw [display_of_isNamed_eq_false h]
      decide
    exact iff_of_false hshown (not_or.2 ⟨hne .verbose2, hne .verbose3⟩)
  | true =>
    obtain ⟨s, rfl⟩ := isNamed_iff.1 h
    cases s <;> decide

/-- A label and a colon take more than the eight columns they have exactly if the label fills these alone. -/
theorem labelColumns_eq (l : Level) :
    max (l.display.length + 1) 8 = if l.rank.toInt = 3 ∨ l.rank.toInt = 4 then 9 else 8 := by
  have hle : l.display.length ≤ 8 := l.length_display_le
  split
  · next hwide =>
    rw [length_display_eq_eight_iff.2 hwide]
    rfl
  · next hnarrow =>
    have hne : l.display.length ≠ 8 := mt length_display_eq_eight_iff.1 hnarrow
    omega

end Level

/-! ### Where messages start -/

/-- Levels that do not have the debug layout: those with names under a threshold below debug, and those that have the
mark of an unknown level. -/
theorem Layout.select_ne_debug {level threshold : Level}
    (h : (level.isNamed = true ∧ threshold.rank.toInt < 5) ∨
      (level.isNamed = false ∧ (level.rank.toInt < 5 ∨ threshold.rank.toInt < 5))) :
    select level threshold ≠ .debug := by
  intro hdebug
  obtain ⟨hthreshold, hlevel⟩ := select_eq_debug_iff.1 hdebug
  rcases h with ⟨-, hlow⟩ | ⟨hunnamed, hlow⟩
  · omega
  · rw [hunnamed] at hlevel
    have habove : 5 < level.rank.toInt := hlevel.resolve_left Bool.false_ne_true
    omega

namespace Logger

/-- What shows of a header is the label and a colon, filled up to a number of columns, and one space.  Of a line the
same shows, and the message from the next column on. -/
def ShowsLabelIn (log : Logger) (columns : Nat) (identity : Identity) (level : Level)
    (caller : Caller) : Prop :=
  let header := log.header identity level caller
  (∃ spaces : Nat,
    visible header =
        level.display ++ ":" ++ String.ofList (List.replicate spaces ' ') ++ " " ∧
      level.display.length + 1 + spaces = columns) ∧
    ∀ message : Message,
      let line := header ++ message.written ++ "\n"
      (level ≤ log.threshold →
        (log.emit identity level caller message).value = Text.utf8 line) ∧
      visible line = visible header ++ visible (message.written ++ "\n") ∧
      Text.StandsAt (visible (message.written ++ "\n")) (columns + 1) (visible line)

/-- The columns are those that the label and the colon take themselves, if they are more than eight. -/
theorem showsLabelIn_of_ne_debug {log : Logger} {level : Level}
    (h : Layout.select level log.threshold ≠ .debug) (identity : Identity) (caller : Caller) :
    log.ShowsLabelIn (max (level.display.length + 1) 8) identity level caller := by
  have hbehind : ∀ rest : String, visible (log.header identity level caller ++ rest) =
      Text.pad (level.display ++ ":") 8 ++ " " ++ visible rest :=
    Header.visible_render_append_of_ne_debug h log.colored caller identity
  have hheader : visible (log.header identity level caller) =
      Text.pad (level.display ++ ":") 8 ++ " " := by
    have hempty := hbehind ""
    rw [String.append_empty] at hempty
    exact hempty.trans String.append_empty
  have hcolon : (level.display ++ ":").length = level.display.length + 1 :=
    String.length_append _ _
  have hlength : (Text.pad (level.display ++ ":") 8 ++ " ").length =
      max (level.display.length + 1) 8 + 1 := by
    rw [String.length_append, Text.length_pad, hcolon]
    rfl
  refine ⟨⟨8 - (level.display.length + 1), ?_, by omega⟩, fun message => ⟨?_, ?_, ?_⟩⟩
  · rw [hheader, Header.pad_eq_filled, Header.filled, hcolon]
  · intro hle
    exact value_emit_of_le hle identity caller message
  · rw [String.append_assoc, hbehind, hheader]
  · rw [String.append_assoc, hbehind, ← hlength]
    exact Text.standsAt_end _ _

/-- Outside debug mode the headers of all levels are equally wide, but for two.  What shows of the header of a level
that has a name, under a threshold below debug, or that has the mark of an unknown level is the label or the mark with
a colon, filled up to eight columns, and one space behind them, whatever the caller and the color setting.  So messages
start at column 9.  The labels of the ranks 3 and 4 take nine columns with their colons, and messages of these two
levels start at column 10. -/
theorem columns_outside_debug_mode (log : Logger) (identity : Identity) (level : Level)
    (caller : Caller)
    (h : (level.isNamed = true ∧ log.threshold.rank.toInt < 5) ∨
      (level.isNamed = false ∧ (level.rank.toInt < 5 ∨ log.threshold.rank.toInt < 5))) :
    log.ShowsLabelIn (if level.rank.toInt = 3 ∨ level.rank.toInt = 4 then 9 else 8) identity level
      caller := by
  rw [← Level.labelColumns_eq]
  exact showsLabelIn_of_ne_debug (Layout.select_ne_debug h) identity caller

/-- A label that does not fit with its colon, in its color, and the mark of a level in the gap between the names. -/
theorem columns_outside_debug_mode_of_both_widths :
    let log : Logger := ⟨⟨4⟩, true⟩
    (⟨4⟩ : Level).isNamed = true ∧ (⟨0⟩ : Level).isNamed = false ∧ log.threshold.rank.toInt < 5 ∧
      visible (log.header ⟨0, 83⟩ ⟨4⟩ default) = "VERBOSE3: " ∧
      visible (log.header ⟨0, 83⟩ ⟨0⟩ default) = "????:    " ∧
      log.ShowsLabelIn 9 ⟨0, 83⟩ ⟨4⟩ default ∧ log.ShowsLabelIn 8 ⟨0, 83⟩ ⟨0⟩ default := by
  intro log
  have hnamed : (⟨4⟩ : Level).isNamed = true := by decide
  have hgap : (⟨0⟩ : Level).isNamed = false := by decide
  have hlow : log.threshold.rank.toInt < 5 := by decide
  refine ⟨hnamed, hgap, hlow, by decide +kernel, by decide +kernel, ?_, ?_⟩
  · exact columns_outside_debug_mode log ⟨0, 83⟩ ⟨4⟩ default (.inl ⟨hnamed, hlow⟩)
  · exact columns_outside_debug_mode log ⟨0, 83⟩ ⟨0⟩ default (.inr ⟨hgap, .inr hlow⟩)

/-- Eight columns are not enough for every level: a label of eight characters takes nine with its colon. -/
theorem not_eight_columns_of_every_level :
    visible (Logger.header ⟨⟨3⟩, false⟩ ⟨0, 83⟩ ⟨3⟩ .unknown) = "VERBOSE2: " ∧
      ¬∀ (log : Logger) (identity : Identity) (level : Level) (caller : Caller),
        (level.isNamed = true ∧ log.threshold.rank.toInt < 5) ∨
            (level.isNamed = false ∧ (level.rank.toInt < 5 ∨ log.threshold.rank.toInt < 5)) →
          log.ShowsLabelIn 8 identity level caller := by
  have htext : visible (Logger.header ⟨⟨3⟩, false⟩ ⟨0, 83⟩ ⟨3⟩ .unknown) = "VERBOSE2: " := by
    decide +kernel
  refine ⟨htext, fun h => ?_⟩
  obtain ⟨⟨spaces, hshown, hwidth⟩, -⟩ :=
    h ⟨⟨3⟩, false⟩ ⟨0, 83⟩ ⟨3⟩ .unknown (.inl ⟨by decide, by decide⟩)
  -- what shows would be of nine characters, but it is of ten
  have hlength := congrArg String.length (htext.symm.trans hshown)
  simp only [String.length_append, String.length_ofList, List.length_replicate] at hlength
  have hten : "VERBOSE2: ".length = 10 := rfl
  have hcolon : ":".length = 1 := rfl
  have hspace : " ".length = 1 := rfl
  omega

end Logger

end LeveledLog
