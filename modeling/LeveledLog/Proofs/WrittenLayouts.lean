import LeveledLog.Proofs.Coloring
import LeveledLog.Proofs.LevelOrder
import LeveledLog.Proofs.SharedLogger

/-!
# The layouts of written lines

The renderer gives a layout to every level under every threshold.  Of a level above debug under a threshold below
debug it makes an unknown level, but such a level does not pass, so no line shows it: every line of a level from debug
upwards has the three columns of the debug layout.

* `Header.standard_not_prefix_debug`: no line in debug mode starts as one outside of it;
* `Header.unknown_prefix_iff`, `Header.exists_labelRanks_prefix_iff`: what a line starts with tells its layout;
* `Layout.select_eq_unknown_iff_of_le`, `Layout.select_eq_debug_iff_of_le`: the layouts of levels that pass;
* `Logger.header_of_unknown`, `Logger.header_of_standard`, `Logger.header_of_debug`: the three headers of such a level;
* `Logger.header_eq_unknown_iff_of_above_debug`: when a level above debug has the mark of an unknown level;
* `Program.written_line_layout`: the layouts of lines, for all loggers and all runs.
-/

namespace LeveledLog

/-! ### Marks and layouts -/

namespace Mark

theorem ofLevel_eq_unknown_iff {level threshold : Level} :
    ofLevel level threshold = .unknown ↔ Layout.select level threshold = .unknown := by
  cases hselect : Layout.select level threshold with
  | unknown => exact iff_of_true (ofLevel_of_unknown hselect) rfl
  | standard label =>
    obtain ⟨hlabel, -⟩ := Layout.select_eq_standard_iff.1 hselect
    obtain ⟨s, rfl, -⟩ := Level.exists_severity_of_label? hlabel
    rw [ofLevel_level]
    exact iff_of_false Mark.noConfusion Layout.noConfusion
  | debug =>
    obtain ⟨hdebug, hlevel⟩ := Layout.select_eq_debug_iff.1 hselect
    exact iff_of_false (ofLevel_ne_unknown hdebug hlevel) Layout.noConfusion

theorem eq_level_of_ofLevel {level threshold : Level} {s : Severity}
    (h : ofLevel level threshold = .severity s) : level = s.level := by
  rw [ofLevel] at h
  cases hs : level.severity? with
  | some s' =>
    rw [hs] at h
    rw [← Mark.severity.inj h, Level.severity?_eq_some_iff.1 hs]
  | none =>
    simp only [hs] at h
    split at h <;> exact Mark.noConfusion h

/-- If a mark's field starts a text that starts with a mark's field under the same settings, the marks are the same. -/
theorem eq_of_field_prefix (colored debugging : Bool) {m m' : Mark} {rest : List Char}
    (h : (m.field colored debugging).toList <+: (m'.field colored debugging).toList ++ rest) :
    m = m' := by
  obtain ⟨behind, hbehind⟩ := h
  exact (selfDelimiting_field colored debugging hbehind).1

/-- Behind the label's field of a known level in debug mode the identity starts. -/
theorem exists_columns_eq (caller : Caller) (identity : Identity) {m : Mark} (h : m ≠ .unknown) :
    ∃ rest, (m.columns true caller identity).toList = "[U=".toList ++ rest := by
  rw [columns, if_pos ⟨rfl, h⟩, String.toList_append, Text.toList_pad, Identity.toList_text]
  simp only [List.append_assoc]
  exact ⟨_, rfl⟩

end Mark

/-! ### Colons and equals signs -/

/-- Painting a text does not bring characters that no code has. -/
theorem Header.mem_paint_iff {c : Char} (hc : ∀ e : Escape, c ∉ e.code.toList) {colored : Bool}
    {e : Escape} {text : String} : c ∈ (paint colored e text).toList ↔ c ∈ text.toList := by
  cases colored with
  | false => rfl
  | true => simp only [paint_true, String.toList_append, List.mem_append, hc, or_false, false_or]

theorem Escape.colon_notMem_code (e : Escape) : ':' ∉ e.code.toList := by
  cases e <;> decide

theorem Escape.equals_notMem_code (e : Escape) : '=' ∉ e.code.toList := by
  cases e <;> decide

theorem Header.colon_mem_standard (colored : Bool) (s : Severity) :
    ':' ∈ (standard colored s.level s.label).toList := by
  have hcolon : ':' ∈ (s.label ++ ":").toList := by
    rw [String.toList_append]
    exact List.mem_append_right _ List.mem_cons_self
  rw [standard, String.toList_append, List.mem_append, mem_paint_iff Escape.colon_notMem_code,
    Text.mem_pad_iff (by decide)]
  exact .inl hcolon

theorem Header.equals_notMem_standard (colored : Bool) (s : Severity) :
    '=' ∉ (standard colored s.level s.label).toList := by
  have hlabel : '=' ∉ (s.label ++ ":").toList := by cases s <;> decide
  rw [standard, String.toList_append, List.mem_append, mem_paint_iff Escape.equals_notMem_code,
    Text.mem_pad_iff (by decide), or_iff_right hlabel]
  decide

theorem Mark.colon_notMem_field {colored : Bool} {m : Mark} (h : m ≠ .unknown) :
    ':' ∉ (m.field colored true).toList := by
  cases m with
  | unknown => exact absurd rfl h
  | severity s =>
    rw [field, if_pos rfl, Header.mem_paint_iff Escape.colon_notMem_code,
      Text.mem_pad_iff (by decide)]
    cases s <;> decide
  | above =>
    rw [field, Header.mem_paint_iff Escape.colon_notMem_code, Text.mem_pad_iff (by decide)]
    decide

/-! ### Reading a layout off a line -/

namespace Header

/-- The mark of an unknown level is the same in both modes, so that it is enough to look at its field. -/
theorem standard_not_prefix_unknown (colored : Bool) (s : Severity) (rest : List Char) :
    ¬(standard colored s.level s.label).toList <+: unknown.toList ++ rest := by
  intro h
  have hmark : Mark.severity s = .unknown := Mark.eq_of_field_prefix colored false h
  exact Mark.noConfusion hmark

/-- Outside of debug mode a header has a colon and no equals sign.  In debug mode an equals sign comes first. -/
theorem standard_not_prefix_debug {colored : Bool} {s : Severity} {m : Mark} (hm : m ≠ .unknown)
    (rest : List Char) :
    ¬(standard colored s.level s.label).toList <+:
      (m.field colored true).toList ++ ("[U=".toList ++ rest) := by
  intro h
  have hopening : (m.field colored true).toList ++ "[U=".toList <+:
      (m.field colored true).toList ++ ("[U=".toList ++ rest) := by
    rw [← List.append_assoc]
    exact List.prefix_append _ _
  rcases List.prefix_or_prefix_of_prefix h hopening with hstandard | hdebug
  · have hcolon := hstandard.subset (colon_mem_standard colored s)
    rcases List.mem_append.1 hcolon with hfield | hidentity
    · exact Mark.colon_notMem_field hm hfield
    · exact absurd hidentity (by decide)
  · have hequals : '=' ∈ (m.field colored true).toList ++ "[U=".toList :=
      List.mem_append_right _ (by decide)
    exact equals_notMem_standard colored s (hdebug.subset hequals)

variable {level threshold : Level} {colored : Bool} {caller : Caller} {identity : Identity}

/-- A line starts with the mark of an unknown level exactly if that is its header. -/
theorem unknown_prefix_iff (rest : String) :
    unknown.toList <+: (render level threshold colored caller identity ++ rest).toList ↔
      Layout.select level threshold = .unknown := by
  constructor
  · intro h
    rw [Mark.render_eq_field_append_columns, String.append_assoc, String.toList_append] at h
    have hmark : Mark.unknown = Mark.ofLevel level threshold := Mark.eq_of_field_prefix colored _ h
    exact Mark.ofLevel_eq_unknown_iff.1 hmark.symm
  · intro h
    rw [render, h, String.toList_append]
    exact List.prefix_append _ _

/-- A line starts with the label of a severity and a colon in its column exactly if it has that severity's level and is
not written in debug mode. -/
theorem standard_prefix_iff {s : Severity} (rest : String) :
    (standard colored s.level s.label).toList <+:
        (render level threshold colored caller identity ++ rest).toList ↔
      level = s.level ∧ threshold.rank.toInt < 5 := by
  constructor
  · intro h
    rw [Mark.render_eq_field_append_columns, String.append_assoc, String.toList_append] at h
    by_cases hdebug : 5 ≤ threshold.rank.toInt
    · rw [decide_eq_true hdebug] at h
      by_cases hunknown : Mark.ofLevel level threshold = .unknown
      · rw [hunknown] at h
        exact absurd h (standard_not_prefix_unknown colored s _)
      · obtain ⟨behind, hbehind⟩ := Mark.exists_columns_eq caller identity hunknown
        rw [String.toList_append, hbehind, List.append_assoc] at h
        exact absurd h (standard_not_prefix_debug hunknown _)
    · rw [decide_eq_false hdebug] at h
      have hmark : Mark.severity s = Mark.ofLevel level threshold :=
        Mark.eq_of_field_prefix colored false h
      exact ⟨Mark.eq_level_of_ofLevel hmark.symm, Int.not_le.1 hdebug⟩
  · intro h
    obtain ⟨rfl, hlow⟩ := h
    have hselect : Layout.select s.level threshold = .standard s.label :=
      Layout.select_eq_standard_iff.2 ⟨Level.label?_level s, hlow⟩
    rw [render, hselect, String.toList_append]
    exact List.prefix_append _ _

/-- The same for the texts that the table of labels gives. -/
theorem exists_labelRanks_prefix_iff (rest : String) :
    (∃ label rank, (label, rank) ∈ Level.labelRanks ∧
        ((if colored then Level.colorCode rank else "") ++ filled (label ++ ":") 8 ++
            (if colored then "\x1b[0m" else "") ++ " ").toList <+:
          (render level threshold colored caller identity ++ rest).toList) ↔
      level.isNamed = true ∧ threshold.rank.toInt < 5 := by
  rw [Level.isNamed_iff]
  constructor
  · intro h
    obtain ⟨label, rank, hentry, hprefix⟩ := h
    obtain ⟨s, rfl, rfl⟩ := Level.mem_labelRanks_iff.1 hentry
    have hstandard : (standard colored s.level s.label).toList <+:
        (render level threshold colored caller identity ++ rest).toList := by
      rw [standard_eq]
      exact hprefix
    obtain ⟨hlevel, hlow⟩ := (standard_prefix_iff rest).1 hstandard
    exact ⟨⟨s, hlevel⟩, hlow⟩
  · intro h
    obtain ⟨⟨s, hlevel⟩, hlow⟩ := h
    have hstandard : (standard colored s.level s.label).toList <+:
        (render level threshold colored caller identity ++ rest).toList :=
      (standard_prefix_iff rest).2 ⟨hlevel, hlow⟩
    rw [standard_eq] at hstandard
    exact ⟨s.label, s.rank.toInt, Level.mem_labelRanks_iff.2 ⟨s, rfl, rfl⟩, hstandard⟩

/-- The header alone is that mark in the same cases. -/
theorem render_eq_unknown_iff :
    render level threshold colored caller identity = unknown ↔
      Layout.select level threshold = .unknown := by
  constructor
  · intro h
    have hline : unknown.toList <+:
        (render level threshold colored caller identity ++ "").toList := by
      simp only [String.append_empty, h, List.prefix_rfl]
    exact (unknown_prefix_iff "").1 hline
  · intro h
    rw [render, h]

end Header

/-! ### The gate and the layouts -/

theorem Level.isNamed_of_above_debug {l : Level} (h : 5 < l.rank.toInt) : l.isNamed = false :=
  Bool.eq_false_iff.2 fun hname => Int.not_lt.2 (toInt_rank_le_of_isNamed hname) h

namespace Layout

variable {level threshold : Level}

/-- A level that passes is unknown only below debug. -/
theorem select_eq_unknown_iff_of_le (h : level ≤ threshold) :
    select level threshold = .unknown ↔ level.isNamed = false ∧ level.rank.toInt < 5 := by
  have hle : level.rank.toInt ≤ threshold.rank.toInt := Level.le_iff.1 h
  rw [select_eq_unknown_iff]
  exact and_congr_right fun _ => by omega

/-- From debug upwards a level that passes has the debug layout, with or without a name. -/
theorem select_eq_debug_iff_of_le (h : level ≤ threshold) :
    select level threshold = .debug ↔
      5 ≤ level.rank.toInt ∨ (level.isNamed = true ∧ 5 ≤ threshold.rank.toInt) := by
  have hle : level.rank.toInt ≤ threshold.rank.toInt := Level.le_iff.1 h
  rw [select_eq_debug_iff]
  constructor
  · intro h
    obtain ⟨hdebug, hlevel⟩ := h
    rcases hlevel with hname | habove
    · exact .inr ⟨hname, hdebug⟩
    · exact .inl (Int.le_of_lt habove)
  · intro h
    rcases h with hhigh | ⟨hname, hdebug⟩
    · refine ⟨Int.le_trans hhigh hle, ?_⟩
      rcases Int.lt_or_eq_of_le hhigh with habove | hrank
      · exact .inr habove
      · exact .inl (Level.isNamed_iff.2 ⟨.debug, Level.ext_iff_toInt.2 hrank.symm⟩)
    · exact ⟨hdebug, .inl hname⟩

end Layout

/-! ### Lines -/

namespace Logger

variable {log : Logger} {level : Level}

/-- The header of a level that passes, if it is unknown: the mark in alert colors. -/
theorem header_of_unknown (hle : level ≤ log.threshold)
    (h : level.isNamed = false ∧ level.rank.toInt < 5) (identity : Identity) (caller : Caller) :
    log.header identity level caller =
      "\x1b[1;31m" ++ Header.filled "????:" 8 ++ "\x1b[0m" ++ " " := by
  have hselect : Layout.select level log.threshold = .unknown :=
    (Layout.select_eq_unknown_iff_of_le hle).2 h
  rw [header, Header.render_of_asUnknown (Header.asUnknown_iff.2 hselect)]

/-- The header of a level with a name outside of debug mode: the label and a colon. -/
theorem header_of_standard (hname : level.isNamed = true) (hlow : log.threshold.rank.toInt < 5)
    (identity : Identity) (caller : Caller) :
    log.header identity level caller =
      (if log.colored then Level.colorCode level.rank.toInt else "") ++
        Header.filled (level.display ++ ":") 8 ++ (if log.colored then "\x1b[0m" else "") ++ " " := by
  obtain ⟨label, hlabel⟩ := Option.isSome_iff_exists.1 hname
  have hselect : Layout.select level log.threshold = .standard label :=
    Layout.select_eq_standard_iff.2 ⟨hlabel, hlow⟩
  rw [header, Header.render_of_asStandard (Header.asStandard_iff.2 hselect),
    Level.display_of_label?_eq_some hlabel]

/-- The header of a level that passes, if it has the debug layout: the level, the identity and the caller. -/
theorem header_of_debug (hle : level ≤ log.threshold)
    (h : 5 ≤ level.rank.toInt ∨ (level.isNamed = true ∧ 5 ≤ log.threshold.rank.toInt))
    (identity : Identity) (caller : Caller) :
    log.header identity level caller =
      (if log.colored then Level.colorCode level.rank.toInt else "") ++
        Header.filled level.display 8 ++ (if log.colored then "\x1b[0m" else "") ++
        Header.filled ("[U=" ++ identity.user.toNat.repr ++ ",P=" ++
          identity.process.toNat.repr ++ "]") 19 ++
        Header.filled (caller.name ++ "()") 30 := by
  have hselect : Layout.select level log.threshold = .debug :=
    (Layout.select_eq_debug_iff_of_le hle).2 h
  rw [header, Header.render_of_asDebug (Header.asDebug_iff.2 ⟨hselect, rfl⟩)]

/-- A level above debug has the mark of an unknown level exactly under a threshold below debug. -/
theorem header_eq_unknown_iff_of_above_debug (habove : 5 < level.rank.toInt) (identity : Identity)
    (caller : Caller) :
    log.header identity level caller = Header.unknown ↔ log.threshold.rank.toInt < 5 := by
  have hname : level.isNamed = false := Level.isNamed_of_above_debug habove
  rw [header, Header.render_eq_unknown_iff, Layout.select_eq_unknown_iff]
  constructor
  · intro h
    obtain ⟨-, hlow⟩ := h
    exact hlow.resolve_left (Int.not_lt.2 (Int.le_of_lt habove))
  · intro hlow
    exact ⟨hname, .inr hlow⟩

end Logger

/-! ### Lines of a run -/

namespace Program

theorem identity_after (p : Program) (steps : List Step) : (p.after steps).identity = p.identity := by
  induction steps generalizing p with
  | nil => rfl
  | cons s rest ih => rw [after_cons, ih, program_perform, reacted]

/-- A line that is written has the layout that its level calls for.  Whatever state a logger is in, an emission that
passes its threshold brings one line, to a sink and to the standard error of a program whose run gets to that state.
From debug upwards, with or without a name, the line has the level, the identity and the caller in their columns, and
so have the lines of levels with names in debug mode.  It has the mark of an unknown level if the level has no name and
is below debug, and its own label and a colon if the level has a name and it and the threshold are below debug, and only
in these cases does it start with that mark, or with any label and a colon.  A level above debug has the mark in a
header only under a threshold below debug, and it does not pass such a threshold. -/
theorem written_line_layout (identity : Identity) (log : Logger) :
    let t := log.threshold.rank.toInt
    let color := fun rank : Int => if log.colored then Level.colorCode rank else ""
    let reset := if log.colored then "\x1b[0m" else ""
    let mark := "\x1b[1;31m" ++ Header.filled "????:" 8 ++ "\x1b[0m" ++ " "
    (∀ e : Emission, e.level ≤ log.threshold →
      let l := e.level.rank.toInt
      ∃ line : String,
        (∀ taken calls,
          (log.writeTo ⟨none, taken, calls⟩ identity e.level e.caller e.message).value.taken =
            taken ++ Text.utf8 line) ∧
          (∀ value before s rest, (∀ t ∈ before, t.ends = false) → s.emission? = some e →
            ((start identity value).after before).logger = log →
              ((start identity value).run (before ++ s :: rest)).entries[before.length]?.map
                Entry.added = some (Text.utf8 line)) ∧
          (5 ≤ l ∨ (e.level.isNamed = true ∧ 5 ≤ t) →
            line = color l ++ Header.filled e.level.display 8 ++ reset ++
              Header.filled ("[U=" ++ identity.user.toNat.repr ++ ",P=" ++
                identity.process.toNat.repr ++ "]") 19 ++
              Header.filled (e.caller.name ++ "()") 30 ++ e.message.written ++ "\n") ∧
          (e.level.isNamed = false ∧ l < 5 → line = mark ++ e.message.written ++ "\n") ∧
          (e.level.isNamed = true ∧ l < 5 ∧ t < 5 →
            line = color l ++ Header.filled (e.level.display ++ ":") 8 ++ reset ++ " " ++
              e.message.written ++ "\n") ∧
          (mark.toList <+: line.toList ↔ e.level.isNamed = false ∧ l < 5) ∧
          ((∃ label rank, (label, rank) ∈ Level.labelRanks ∧
              (color rank ++ Header.filled (label ++ ":") 8 ++ reset ++ " ").toList <+:
                line.toList) ↔
            e.level.isNamed = true ∧ l < 5 ∧ t < 5)) ∧
      ∀ (level : Level) (caller : Caller), 5 < level.rank.toInt →
        (log.header identity level caller = mark ↔ t < 5) ∧
          (log.header identity level caller = mark → log.enabled level = false) := by
  intro t color reset mark
  have hmark : mark = Header.unknown := Header.unknown_eq.symm
  refine ⟨?_, ?_⟩
  · intro e hle l
    have hbytes : e.bytes log identity =
        Text.utf8 (log.header identity e.level e.caller ++ (e.message.written ++ "\n")) := by
      rw [Emission.bytes, Logger.value_emit_of_le hle, String.append_assoc]
    refine ⟨log.header identity e.level e.caller ++ (e.message.written ++ "\n"), ?_, ?_, ?_, ?_, ?_,
      ?_, ?_⟩
    · intro taken calls
      rw [Logger.taken_writeTo_unlimited, ← hbytes, Emission.bytes]
    · intro value before s rest hbefore hs hlog
      have hidentity : ((start identity value).after before).identity = identity :=
        identity_after (start identity value) before
      rw [map_added_run _ hbefore, added_eq_bytes hs, hlog, hidentity, hbytes]
    · intro hdebug
      rw [Logger.header_of_debug hle hdebug, ← String.append_assoc]
    · intro hunknown
      rw [Logger.header_of_unknown hle hunknown, ← String.append_assoc]
    · intro hstandard
      obtain ⟨hname, -, hlow⟩ := hstandard
      rw [Logger.header_of_standard hname hlow, ← String.append_assoc]
    · rw [hmark, Logger.header, Header.unknown_prefix_iff, Layout.select_eq_unknown_iff_of_le hle]
    · -- what passes a threshold below debug is below debug itself
      have hlow : l < 5 ∧ t < 5 ↔ t < 5 :=
        and_iff_right_of_imp (Int.lt_of_le_of_lt (Level.le_iff.1 hle))
      rw [hlow]
      exact Header.exists_labelRanks_prefix_iff _
  · intro level caller habove
    have hiff : log.header identity level caller = mark ↔ t < 5 := by
      rw [hmark]
      exact Logger.header_eq_unknown_iff_of_above_debug habove identity caller
    refine ⟨hiff, ?_⟩
    intro hunknown
    have hlow : log.threshold.rank.toInt < 5 := hiff.1 hunknown
    have hlt : log.threshold < level := Level.lt_iff.2 (Int.lt_trans hlow habove)
    exact decide_eq_false (not_le.2 hlt)

/-- A level above debug in a closure, under its own rank as the threshold and under one below debug. -/
theorem written_line_layout_above_debug :
    let log : Logger := ⟨⟨9⟩, false⟩
    let before := [Step.setThreshold ⟨9⟩, .disableColor]
    let s := Step.log (.ofLevel ⟨9⟩) "app::serve::\x7b\x7bclosure\x7d\x7d::__sylog_marker"
      [.text "up", .fault, .text "lost"]
    let first := start ⟨0, 83⟩ none
    (∀ t ∈ before, t.ends = false) ∧ (first.after before).logger = log ∧
      (first.run (before ++ [s])).entries[2]?.map Entry.added =
        some (Text.utf8 "????    [U=0,P=83]         serve()                       up\n") ∧
      (log.setThreshold ⟨4⟩).header ⟨0, 83⟩ ⟨9⟩ default = "\x1b[1;31m????:   \x1b[0m " ∧
      (log.setThreshold ⟨4⟩).enabled ⟨9⟩ = false := by
  intro log before s first
  have hbefore : ∀ t ∈ before, t.ends = false := by decide
  have hlog : (first.after before).logger = log := by decide +kernel
  obtain ⟨line, -, hrun, hdebug, -⟩ := (written_line_layout ⟨0, 83⟩ log).1
    ⟨⟨9⟩, .ofMarkerPath "app::serve::\x7b\x7bclosure\x7d\x7d::__sylog_marker",
      [.text "up", .fault, .text "lost"]⟩ (by decide)
  have hline : line = "????    [U=0,P=83]         serve()                       up\n" :=
    (hdebug (by decide)).trans (by decide +kernel)
  obtain ⟨hiff, hfiltered⟩ :=
    (written_line_layout ⟨0, 83⟩ (log.setThreshold ⟨4⟩)).2 ⟨9⟩ default (by decide)
  have hmark := hiff.2 (by decide)
  refine ⟨hbefore, hlog, ?_, hmark, hfiltered hmark⟩
  rw [← hline]
  exact hrun none before s [] hbefore rfl hlog

end Program

end LeveledLog
