import LeveledLog.Logger.Basic

/-!
# The header by ranks

Which text the header of a level under a threshold is, told by the two ranks as integers: a table of labels, a table
of colors, columns filled with spaces, and three cases that divide the plane of all pairs of ranks.

* `Level.label?_eq_some_iff`: the levels with a label are those of the table;
* `Level.code_escape`: the color of a label is that of its rank;
* `Layout.select_eq_unknown_iff`, `Layout.select_eq_standard_iff`, `Layout.select_eq_debug_iff`: which layout a
  level has under a threshold;
* `Header.render_by_rank`: the text of a header in each of the three cases, exactly one of which holds.
-/

namespace LeveledLog

/-! ### Labels and colors by rank -/

/-- The labels of levels, each with its rank. -/
def Level.labelRanks : List (String × Int) :=
  [("FATAL", -4), ("ERROR", -3), ("WARNING", -2), ("INFO", 1), ("VERBOSE", 2), ("VERBOSE2", 3),
    ("VERBOSE3", 4), ("DEBUG", 5)]

/-- The escape code of the color for a rank. -/
def Level.colorCode (rank : Int) : String :=
  if rank = -4 ∨ rank = -3 then "\x1b[31m"
  else if rank = -2 then "\x1b[33m"
  else if 1 ≤ rank ∧ rank ≤ 4 then "\x1b[34m"
  else "\x1b[0m"

/-- No severity is above debug. -/
theorem Severity.rank_le_debug (s : Severity) : s.rank.toInt ≤ 5 := by
  cases s <;> decide

namespace Level

theorem labelRanks_eq_map :
    labelRanks = Severity.all.map fun s => (s.label, s.rank.toInt) := by
  rfl

theorem mem_labelRanks_iff {label : String} {rank : Int} :
    (label, rank) ∈ labelRanks ↔ ∃ s : Severity, s.label = label ∧ s.rank.toInt = rank := by
  rw [labelRanks_eq_map, List.mem_map]
  constructor
  · intro h
    obtain ⟨s, -, hpair⟩ := h
    exact ⟨s, Prod.mk.inj hpair⟩
  · intro h
    obtain ⟨s, hlabel, hrank⟩ := h
    exact ⟨s, s.mem_all, Prod.ext hlabel hrank⟩

theorem label?_eq_some_iff {l : Level} {label : String} :
    l.label? = some label ↔ (label, l.rank.toInt) ∈ labelRanks := by
  rw [label?_eq_map_severity?, Option.map_eq_some_iff, mem_labelRanks_iff]
  refine exists_congr fun s => ?_
  rw [severity?_eq_some_iff, ext_iff_toInt, and_comm, eq_comm (a := l.rank.toInt)]
  rfl

theorem label?_eq_none_iff {l : Level} : l.label? = none ↔ l.isNamed = false := by
  rw [isNamed, Option.isSome_eq_false_iff, Option.isNone_iff_eq_none]

theorem display_of_label?_eq_some {l : Level} {label : String} (h : l.label? = some label) :
    l.display = label := by
  rw [display, h, Option.getD_some]

theorem isNamed_of_label?_eq_some {l : Level} {label : String} (h : l.label? = some label) :
    l.isNamed = true := by
  rw [isNamed, h, Option.isSome_some]

theorem isNamed_eq_false_iff_labelRanks {l : Level} :
    l.isNamed = false ↔ ∀ label, (label, l.rank.toInt) ∉ labelRanks := by
  rw [← label?_eq_none_iff, Option.eq_none_iff_forall_ne_some]
  exact forall_congr' fun label => not_congr label?_eq_some_iff

/-- No level with a name is above debug. -/
theorem toInt_rank_le_of_isNamed {l : Level} (h : l.isNamed = true) : l.rank.toInt ≤ 5 := by
  obtain ⟨s, rfl⟩ := isNamed_iff.1 h
  exact s.rank_le_debug

/-- A level without a name has none of the ranks that have a color of their own. -/
theorem colorCode_of_severity?_eq_none {l : Level} (h : l.severity? = none) :
    colorCode l.rank.toInt = "\x1b[0m" := by
  have hne : ∀ s : Severity, l.rank.toInt ≠ s.rank.toInt := toInt_rank_ne h
  have hfatal : l.rank.toInt ≠ -4 := hne .fatal
  have herror : l.rank.toInt ≠ -3 := hne .error
  have hwarning : l.rank.toInt ≠ -2 := hne .warning
  have hinfo : l.rank.toInt ≠ 1 := hne .info
  have hverbose : l.rank.toInt ≠ 2 := hne .verbose
  have hverbose2 : l.rank.toInt ≠ 3 := hne .verbose2
  have hverbose3 : l.rank.toInt ≠ 4 := hne .verbose3
  rw [colorCode, if_neg (by omega), if_neg hwarning, if_neg (by omega)]

/-- The color of a label is the one for the rank. -/
theorem code_escape (l : Level) : l.escape.code = colorCode l.rank.toInt := by
  cases h : l.severity? with
  | none =>
    rw [colorCode_of_severity?_eq_none h, escape, h]
    rfl
  | some s =>
    have hl : l = s.level := severity?_eq_some_iff.1 h
    rw [hl, escape_level]
    cases s <;> rfl

end Level

/-! ### The three layouts -/

namespace Layout

theorem lt_debug_iff {l : Level} : l < Severity.debug.level ↔ l.rank.toInt < 5 :=
  Level.lt_iff

theorem debug_le_iff {l : Level} : Severity.debug.level ≤ l ↔ 5 ≤ l.rank.toInt :=
  Level.le_iff

variable {level threshold : Level}

theorem select_of_label?_eq_some {label : String} (h : level.label? = some label)
    (threshold : Level) :
    select level threshold = if 5 ≤ threshold.rank.toInt then .debug else .standard label := by
  simp only [select, Level.isNamed_of_label?_eq_some h, Bool.true_eq_false, false_and, if_false,
    debug_le_iff, h]

theorem select_of_isNamed_eq_false (h : level.isNamed = false) (threshold : Level) :
    select level threshold =
      if level.rank.toInt < 5 ∨ threshold.rank.toInt < 5 then .unknown else .debug := by
  simp only [select, h, Level.label?_eq_none_iff.2 h, true_and, lt_debug_iff, debug_le_iff]
  by_cases hlow : level.rank.toInt < 5
  · rw [if_pos hlow, if_pos (.inl hlow)]
  · rw [if_neg hlow]
    by_cases hdebug : 5 ≤ threshold.rank.toInt
    · rw [if_pos hdebug, if_neg (not_or.2 ⟨hlow, Int.not_lt.2 hdebug⟩)]
    · rw [if_neg hdebug, if_pos (.inr (Int.not_le.1 hdebug))]

theorem select_eq_unknown_iff :
    select level threshold = .unknown ↔
      level.isNamed = false ∧ (level.rank.toInt < 5 ∨ threshold.rank.toInt < 5) := by
  cases h : level.label? with
  | some label =>
    rw [select_of_label?_eq_some h, Level.isNamed_of_label?_eq_some h]
    split <;> simp
  | none =>
    have hunnamed : level.isNamed = false := Level.label?_eq_none_iff.1 h
    rw [select_of_isNamed_eq_false hunnamed]
    split <;> simp [*]

theorem select_eq_standard_iff {label : String} :
    select level threshold = .standard label ↔
      level.label? = some label ∧ threshold.rank.toInt < 5 := by
  cases h : level.label? with
  | some label' =>
    rw [select_of_label?_eq_some h]
    split <;> simp <;> omega
  | none =>
    rw [select_of_isNamed_eq_false (Level.label?_eq_none_iff.1 h)]
    split <;> simp

/-- A level that has no name and is not below debug is above it. -/
theorem select_eq_debug_iff :
    select level threshold = .debug ↔
      5 ≤ threshold.rank.toInt ∧ (level.isNamed = true ∨ 5 < level.rank.toInt) := by
  cases h : level.label? with
  | some label =>
    rw [select_of_label?_eq_some h, Level.isNamed_of_label?_eq_some h]
    split <;> simp [*]
  | none =>
    have hunnamed : level.isNamed = false := Level.label?_eq_none_iff.1 h
    have hne : level.rank.toInt ≠ 5 :=
      Level.toInt_rank_ne (Level.isNamed_eq_false_iff.1 hunnamed) .debug
    rw [select_of_isNamed_eq_false hunnamed, hunnamed]
    split <;> simp <;> omega

end Layout

/-! ### Columns and colors as texts -/

namespace Header

/-- A text and behind it the spaces that it lacks to a count of characters. -/
def filled (text : String) (width : Nat) : String :=
  text ++ String.ofList (List.replicate (width - text.length) ' ')

theorem pad_eq_filled (text : String) (width : Nat) : Text.pad text width = filled text width := by
  rw [← String.toList_inj, Text.toList_pad, filled, String.toList_append, String.toList_ofList]

theorem paint_eq (colored : Bool) (e : Escape) (text : String) :
    paint colored e text =
      (if colored then e.code else "") ++ text ++ (if colored then "\x1b[0m" else "") := by
  cases colored with
  | true => rfl
  | false =>
    show text = "" ++ text ++ ""
    rw [String.empty_append, String.append_empty]

theorem unknown_eq : unknown = "\x1b[1;31m" ++ filled "????:" 8 ++ "\x1b[0m" ++ " " := by
  rw [unknown, paint_true, pad_eq_filled]
  rfl

theorem standard_eq (colored : Bool) (level : Level) (label : String) :
    standard colored level label =
      (if colored then Level.colorCode level.rank.toInt else "") ++ filled (label ++ ":") 8 ++
        (if colored then "\x1b[0m" else "") ++ " " := by
  rw [standard, paint_eq, Level.code_escape, pad_eq_filled]
  rfl

theorem debug_eq (colored : Bool) (level : Level) (caller : Caller) (identity : Identity) :
    debug colored level caller identity =
      (if colored then Level.colorCode level.rank.toInt else "") ++ filled level.display 8 ++
        (if colored then "\x1b[0m" else "") ++
        filled ("[U=" ++ identity.user.toNat.repr ++ ",P=" ++ identity.process.toNat.repr ++ "]") 19 ++
        filled (caller.name ++ "()") 30 := by
  rw [debug, paint_eq, Level.code_escape, pad_eq_filled, pad_eq_filled, pad_eq_filled]
  rfl

/-! ### The text in each case -/

/-- A level that has no label, with one of the two ranks below debug. -/
def AsUnknown (level threshold : Int) : Prop :=
  (∀ label, (label, level) ∉ Level.labelRanks) ∧ (level < 5 ∨ threshold < 5)

/-- A level under a threshold of debug or more, with its label or above the levels that have one. -/
def AsDebug (level threshold : Int) (label : String) : Prop :=
  5 ≤ threshold ∧ ((label, level) ∈ Level.labelRanks ∨ (5 < level ∧ label = "????"))

/-- A level with its label, under a threshold below debug. -/
def AsStandard (level threshold : Int) (label : String) : Prop :=
  threshold < 5 ∧ (label, level) ∈ Level.labelRanks

variable {level threshold : Level} {label : String}

theorem asUnknown_iff :
    AsUnknown level.rank.toInt threshold.rank.toInt ↔ Layout.select level threshold = .unknown := by
  rw [AsUnknown, Layout.select_eq_unknown_iff, Level.isNamed_eq_false_iff_labelRanks]

theorem asStandard_iff :
    AsStandard level.rank.toInt threshold.rank.toInt label ↔
      Layout.select level threshold = .standard label := by
  rw [AsStandard, Layout.select_eq_standard_iff, Level.label?_eq_some_iff, and_comm]

theorem asDebug_iff :
    AsDebug level.rank.toInt threshold.rank.toInt label ↔
      Layout.select level threshold = .debug ∧ level.display = label := by
  rw [AsDebug, Layout.select_eq_debug_iff, ← Level.label?_eq_some_iff, and_assoc]
  refine and_congr_right fun _ => ?_
  cases h : level.label? with
  | none =>
    have hunnamed : level.isNamed = false := Level.label?_eq_none_iff.1 h
    simp [hunnamed, Level.display_of_isNamed_eq_false hunnamed, Level.unknownLabel, eq_comm]
  | some shown =>
    have hnamed : level.isNamed = true := Level.isNamed_of_label?_eq_some h
    have hdisplay : level.display = shown := Level.display_of_label?_eq_some h
    simp [hnamed, hdisplay, Int.not_lt.2 (Level.toInt_rank_le_of_isNamed hnamed)]

theorem render_of_asUnknown (h : AsUnknown level.rank.toInt threshold.rank.toInt) (colored : Bool)
    (caller : Caller) (identity : Identity) :
    render level threshold colored caller identity =
      "\x1b[1;31m" ++ filled "????:" 8 ++ "\x1b[0m" ++ " " := by
  rw [render, asUnknown_iff.1 h, unknown_eq]

theorem render_of_asDebug (h : AsDebug level.rank.toInt threshold.rank.toInt label) (colored : Bool)
    (caller : Caller) (identity : Identity) :
    render level threshold colored caller identity =
      (if colored then Level.colorCode level.rank.toInt else "") ++ filled label 8 ++
        (if colored then "\x1b[0m" else "") ++
        filled ("[U=" ++ identity.user.toNat.repr ++ ",P=" ++ identity.process.toNat.repr ++ "]") 19 ++
        filled (caller.name ++ "()") 30 := by
  obtain ⟨hselect, hlabel⟩ := asDebug_iff.1 h
  rw [render, hselect, ← hlabel]
  exact debug_eq colored level caller identity

theorem render_of_asStandard (h : AsStandard level.rank.toInt threshold.rank.toInt label)
    (colored : Bool) (caller : Caller) (identity : Identity) :
    render level threshold colored caller identity =
      (if colored then Level.colorCode level.rank.toInt else "") ++ filled (label ++ ":") 8 ++
        (if colored then "\x1b[0m" else "") ++ " " := by
  rw [render, asStandard_iff.1 h]
  exact standard_eq colored level label

/-- The header of a level under a threshold, for every pair of ranks.  Without a label, and with one of the two
below debug, it is the mark in alert colors, whatever the caller and the color setting.  Under a threshold of debug
or more it is the three columns, and under a lower one the label and a colon, in the color of the rank if colors are
on.  Of the three cases exactly one holds, and the header that a logger gives is this text. -/
theorem render_by_rank (level threshold : Level) (colored : Bool) (caller : Caller)
    (identity : Identity) :
    let l := level.rank.toInt
    let t := threshold.rank.toInt
    let color := if colored then Level.colorCode l else ""
    let reset := if colored then "\x1b[0m" else ""
    let text := render level threshold colored caller identity
    (AsUnknown l t → text = "\x1b[1;31m" ++ filled "????:" 8 ++ "\x1b[0m" ++ " ") ∧
      (∀ label, AsDebug l t label →
        text = color ++ filled label 8 ++ reset ++
          filled ("[U=" ++ identity.user.toNat.repr ++ ",P=" ++ identity.process.toNat.repr ++ "]") 19 ++
          filled (caller.name ++ "()") 30) ∧
      (∀ label, AsStandard l t label → text = color ++ filled (label ++ ":") 8 ++ reset ++ " ") ∧
      (AsUnknown l t ∨ (∃ label, AsDebug l t label) ∨ ∃ label, AsStandard l t label) ∧
      (∀ label, ¬(AsUnknown l t ∧ AsDebug l t label)) ∧
      (∀ label, ¬(AsUnknown l t ∧ AsStandard l t label)) ∧
      (∀ label label', ¬(AsDebug l t label ∧ AsStandard l t label')) ∧
      (Logger.mk threshold colored).header identity level caller = text := by
  intro l t color reset text
  refine ⟨fun h => render_of_asUnknown h colored caller identity,
    fun label h => render_of_asDebug h colored caller identity,
    fun label h => render_of_asStandard h colored caller identity, ?_, ?_, ?_, ?_, rfl⟩
  · cases hselect : Layout.select level threshold with
    | unknown => exact .inl (asUnknown_iff.2 hselect)
    | standard label => exact .inr (.inr ⟨label, asStandard_iff.2 hselect⟩)
    | debug => exact .inr (.inl ⟨level.display, asDebug_iff.2 ⟨hselect, rfl⟩⟩)
  -- a level has one layout under a threshold, and each case is one of them
  · intro label ⟨hunknown, hdebug⟩
    exact Layout.noConfusion ((asUnknown_iff.1 hunknown).symm.trans (asDebug_iff.1 hdebug).1)
  · intro label ⟨hunknown, hstandard⟩
    exact Layout.noConfusion ((asUnknown_iff.1 hunknown).symm.trans (asStandard_iff.1 hstandard))
  · intro label label' ⟨hdebug, hstandard⟩
    exact Layout.noConfusion ((asDebug_iff.1 hdebug).1.symm.trans (asStandard_iff.1 hstandard))

/-- A level above debug under a threshold of debug, written by a caller whose name fills its column. -/
theorem render_by_rank_above_debug :
    AsDebug 9 5 "????" ∧
      render ⟨9⟩ ⟨5⟩ true ⟨"exactly_twenty_eight_charact"⟩ ⟨4294967295, 1234567890⟩ =
        "\x1b[0m????    \x1b[0m[U=4294967295,P=1234567890]exactly_twenty_eight_charact()" :=
  have h : AsDebug 9 5 "????" := ⟨by decide, .inr ⟨by decide, rfl⟩⟩
  ⟨h, ((render_by_rank ⟨9⟩ ⟨5⟩ true _ _).2.1 "????" h).trans (by rfl)⟩

end Header

end LeveledLog
