import LeveledLog.Proofs.Emission
import LeveledLog.Proofs.HeaderByRank

/-!
# Reading a line back

A line has no separators between its parts, and what a message writes is free.  Still a line tells its parts: the
label's field, the identity and the caller each end themselves, so that none of them can be mistaken for another one
with a different text behind it.

* `Text.SelfDelimiting`: fields that end themselves, with `pad` and `append` to build them;
* `Mark.selfDelimiting_field`: the label's field, in all colors, with a finite check;
* `Identity.selfDelimiting_text`, `Caller.selfDelimiting_display`: the two wider columns;
* `Logger.emit_inj`: equal lines have equal levels as shown, equal messages, and in the debug layout equal callers
  and identities.
-/

namespace LeveledLog

/-! ### Fields that end themselves -/

namespace Text

/-- The lists of a family end themselves: one of them and any list behind it can be told apart again. -/
def SelfDelimiting {α : Type} (field : α → List Char) : Prop :=
  ∀ ⦃a b : α⦄ ⦃xs ys : List Char⦄, field a ++ xs = field b ++ ys → a = b ∧ xs = ys

variable {α β : Type}

/-- It is enough to know which list of the family it was. -/
theorem SelfDelimiting.of_eq {field : α → List Char}
    (h : ∀ a b xs ys, field a ++ xs = field b ++ ys → a = b) : SelfDelimiting field := by
  intro a b xs ys heq
  have hab : a = b := h a b xs ys heq
  subst hab
  exact ⟨rfl, List.append_cancel_left heq⟩

/-- No list of a self-delimiting family starts another one, and that is all it takes. -/
theorem SelfDelimiting.of_prefix_eq {field : α → List Char}
    (h : ∀ a b, field a <+: field b → a = b) : SelfDelimiting field := by
  refine .of_eq fun a b xs ys heq => ?_
  have ha : field a <+: field a ++ xs := List.prefix_append (field a) xs
  have hb : field b <+: field a ++ xs := heq ▸ List.prefix_append (field b) ys
  rcases List.prefix_or_prefix_of_prefix ha hb with hprefix | hprefix
  · exact h a b hprefix
  · exact (h b a hprefix).symm

theorem SelfDelimiting.append {f : α → List Char} {g : β → List Char} (hf : SelfDelimiting f)
    (hg : SelfDelimiting g) : SelfDelimiting fun p : α × β => f p.1 ++ g p.2 := by
  intro p q xs ys heq
  rw [List.append_assoc, List.append_assoc] at heq
  obtain ⟨hfst, hrest⟩ := hf heq
  obtain ⟨hsnd, hxs⟩ := hg hrest
  exact ⟨Prod.ext hfst hsnd, hxs⟩

/-- Filling a column does not hide where its text ends. -/
theorem SelfDelimiting.pad {field : α → String} (h : SelfDelimiting fun a => (field a).toList)
    (width : Nat) : SelfDelimiting fun a => (Text.pad (field a) width).toList := by
  refine .of_eq fun a b xs ys heq => ?_
  rw [toList_pad, toList_pad, List.append_assoc, List.append_assoc] at heq
  exact (h heq).1

/-- A list is known by the first place of a character that is not in it. -/
theorem append_stop_inj {stop : Char} {xs ys us vs : List Char} (hx : stop ∉ xs) (hy : stop ∉ ys)
    (h : xs ++ stop :: us = ys ++ stop :: vs) : xs = ys := by
  induction xs generalizing ys with
  | nil =>
    cases ys with
    | nil => rfl
    | cons y ys =>
      have hstop : stop = y := (List.cons.inj h).1
      exact absurd (hstop ▸ List.mem_cons_self) hy
  | cons x xs ih =>
    cases ys with
    | nil =>
      have hstop : x = stop := (List.cons.inj h).1
      exact absurd (hstop ▸ List.mem_cons_self) hx
    | cons y ys =>
      obtain ⟨hxy, hrest⟩ := List.cons.inj h
      have hx' : stop ∉ xs := fun hm => hx (List.mem_cons_of_mem x hm)
      have hy' : stop ∉ ys := fun hm => hy (List.mem_cons_of_mem y hm)
      rw [hxy, ih hx' hy' hrest]

/-- The numeral of a number has digits only. -/
theorem notMem_repr {c : Char} (hc : c.isDigit = false) (n : Nat) : c ∉ n.repr.toList := by
  intro h
  rw [Nat.toList_repr] at h
  have hdigit : c.isDigit = true := Nat.isDigit_of_mem_toDigits (by decide) (by decide) h
  rw [hc] at hdigit
  exact absurd hdigit Bool.false_ne_true

/-- The digits of a number end at a character that is not a digit. -/
theorem repr_stop_inj {m n : Nat} {stop : Char} {us vs : List Char} (hstop : stop.isDigit = false)
    (h : m.repr.toList ++ stop :: us = n.repr.toList ++ stop :: vs) : m = n ∧ us = vs := by
  have hdigits : m.repr.toList = n.repr.toList := append_stop_inj (notMem_repr hstop m) (notMem_repr hstop n) h
  have hnat : some m = some n := by
    rw [← Decimal.nat?_toDigits m, ← Decimal.nat?_toDigits n, ← Nat.toList_repr, hdigits,
      Nat.toList_repr]
  rw [hdigits] at h
  exact ⟨Option.some.inj hnat, (List.cons.inj (List.append_cancel_left h)).2⟩

end Text

open Text (SelfDelimiting)

/-! ### Identities and callers -/

theorem Identity.toList_text (i : Identity) :
    i.text.toList = "[U=".toList ++ (i.user.toNat.repr.toList ++
      ',' :: ("P=".toList ++ (i.process.toNat.repr.toList ++ [']']))) := by
  simp [Identity.text, String.toList_append]

theorem Identity.selfDelimiting_text : SelfDelimiting fun i : Identity => i.text.toList := by
  refine .of_eq fun i j xs ys h => ?_
  simp only [Identity.toList_text, List.append_assoc, List.cons_append] at h
  obtain ⟨huser, h⟩ := Text.repr_stop_inj (by decide) (List.append_cancel_left h)
  obtain ⟨hprocess, -⟩ := Text.repr_stop_inj (by decide) (List.append_cancel_left h)
  have hi : i = ⟨j.user, j.process⟩ := by
    rw [← UInt32.toNat_inj.1 huser, ← UInt32.toNat_inj.1 hprocess]
  exact hi

/-- A caller whose name has no opening bracket, so that its argument list starts at the first one. -/
abbrev PlainCaller := { c : Caller // '(' ∉ c.name.toList }

theorem Caller.selfDelimiting_display :
    SelfDelimiting fun c : PlainCaller => c.1.display.toList := by
  refine .of_eq fun c d xs ys h => ?_
  have hdisplay : ∀ e : Caller, e.display.toList = e.name.toList ++ ['(', ')'] := fun e =>
    String.toList_append
  simp only [hdisplay, List.append_assoc, List.cons_append, List.nil_append] at h
  have hname : c.1.name.toList = d.1.name.toList := Text.append_stop_inj c.2 d.2 h
  exact Subtype.ext (congrArg Caller.mk (String.toList_inj.1 hname))

/-! ### The label's field -/

/-- What the label's place of a header shows: that there is no label, a severity, or a level above them all. -/
inductive Mark
  | unknown
  | severity (s : Severity)
  | above
  deriving DecidableEq

namespace Mark

def all : List Mark :=
  .unknown :: .above :: Severity.all.map .severity

theorem mem_all (m : Mark) : m ∈ all := by
  cases m with
  | unknown => exact List.mem_cons_self
  | above => exact List.mem_cons_of_mem _ List.mem_cons_self
  | severity s =>
    have hs : Mark.severity s ∈ Severity.all.map .severity := List.mem_map_of_mem s.mem_all
    exact List.mem_cons_of_mem _ (List.mem_cons_of_mem _ hs)

/-- The mark of a level under a threshold. -/
def ofLevel (level threshold : Level) : Mark :=
  match level.severity? with
  | some s => .severity s
  | none => if Layout.select level threshold = .debug then .above else .unknown

/-- The text that a mark shows. -/
def shown : Mark → String
  | .severity s => s.label
  | .unknown => Level.unknownLabel
  | .above => Level.unknownLabel

/-- The label's field of a header, with the color codes around it. -/
def field (colored debugging : Bool) : Mark → String
  | .unknown => Header.unknown
  | .severity s =>
    if debugging then Header.paint colored s.escape (Text.pad s.label Header.labelWidth)
    else Header.standard colored s.level s.label
  | .above => Header.paint colored .reset (Text.pad Level.unknownLabel Header.labelWidth)

/-- The columns behind the label's field. -/
def columns (debugging : Bool) (caller : Caller) (identity : Identity) (m : Mark) : String :=
  if debugging = true ∧ m ≠ .unknown then
    Text.pad identity.text Header.identityWidth ++ Text.pad caller.display Header.callerWidth
  else ""

/-- No label's field starts another one under the same settings. -/
theorem selfDelimiting_field (colored debugging : Bool) :
    SelfDelimiting fun m : Mark => (m.field colored debugging).toList := by
  refine .of_prefix_eq fun a b hprefix => ?_
  have hall : (all.all fun a => all.all fun b =>
      !(a.field colored debugging).toList.isPrefixOf (b.field colored debugging).toList ||
        decide (a = b)) = true := by
    cases colored <;> cases debugging <;> decide +kernel
  have hab := List.all_eq_true.1 (List.all_eq_true.1 hall a a.mem_all) b b.mem_all
  rw [List.isPrefixOf_iff_prefix.2 hprefix] at hab
  exact of_decide_eq_true hab

theorem shown_ofLevel (level threshold : Level) :
    (ofLevel level threshold).shown = level.display := by
  rw [ofLevel, Level.display, Level.label?_eq_map_severity?]
  cases level.severity? with
  | some s => rfl
  | none =>
    show (if Layout.select level threshold = .debug then above else unknown).shown = _
    split <;> rfl

theorem ofLevel_level (s : Severity) (threshold : Level) :
    ofLevel s.level threshold = .severity s := by
  rw [ofLevel, Level.severity?_level]

theorem ofLevel_of_unknown {level threshold : Level}
    (h : Layout.select level threshold = .unknown) : ofLevel level threshold = .unknown := by
  have hname : level.isNamed = false := (Layout.select_eq_unknown_iff.1 h).1
  rw [ofLevel, Level.isNamed_eq_false_iff.1 hname, h]
  rfl

/-- In debug mode only a level that has no name and is not above debug has no mark. -/
theorem ofLevel_ne_unknown {level threshold : Level} (hdebug : 5 ≤ threshold.rank.toInt)
    (hlevel : level.isNamed = true ∨ 5 < level.rank.toInt) : ofLevel level threshold ≠ .unknown := by
  rw [ofLevel]
  cases hs : level.severity? with
  | some s => exact Mark.noConfusion
  | none =>
    have habove : 5 < level.rank.toInt := by
      rcases hlevel with hnamed | habove
      · rw [Level.isNamed_eq_isSome_severity?, hs] at hnamed
        exact absurd hnamed Bool.false_ne_true
      · exact habove
    show (if Layout.select level threshold = .debug then above else unknown) ≠ unknown
    rw [if_pos (Layout.select_eq_debug_iff.2 ⟨hdebug, .inr habove⟩)]
    exact Mark.noConfusion

/-- A header is its mark's field and the columns behind it. -/
theorem render_eq_field_append_columns (level threshold : Level) (colored : Bool) (caller : Caller)
    (identity : Identity) :
    Header.render level threshold colored caller identity =
      (ofLevel level threshold).field colored (decide (5 ≤ threshold.rank.toInt)) ++
        (ofLevel level threshold).columns (decide (5 ≤ threshold.rank.toInt)) caller identity := by
  cases hselect : Layout.select level threshold with
  | unknown =>
    have hmark : ofLevel level threshold = .unknown := ofLevel_of_unknown hselect
    rw [Header.render, hselect, hmark, columns, if_neg fun h => h.2 rfl]
    exact String.append_empty.symm
  | standard label =>
    obtain ⟨hlabel, hlow⟩ := Layout.select_eq_standard_iff.1 hselect
    obtain ⟨s, rfl, rfl⟩ := Level.exists_severity_of_label? hlabel
    rw [Header.render, hselect, ofLevel_level, decide_eq_false (Int.not_le.2 hlow)]
    exact String.append_empty.symm
  | debug =>
    rw [Header.render, hselect, decide_eq_true (Layout.select_eq_debug_iff.1 hselect).1]
    show Header.debug colored level caller identity = _
    cases hs : level.severity? with
    | some s =>
      rw [Level.severity?_eq_some_iff.1 hs, ofLevel_level, Header.debug, Level.escape_level,
        Level.display_level, String.append_assoc]
      rfl
    | none =>
      have hmark : ofLevel level threshold = .above := by rw [ofLevel, hs, hselect]; rfl
      rw [hmark, Header.debug, Level.escape, Level.display, Level.label?_eq_map_severity?, hs,
        String.append_assoc]
      rfl

end Mark

/-- The two columns of the debug layout tell who wrote a line, and where what was written starts. -/
theorem debugColumns_append_inj {c₁ c₂ : Caller} {i₁ i₂ : Identity} {xs ys : List Char}
    (hc₁ : '(' ∉ c₁.name.toList) (hc₂ : '(' ∉ c₂.name.toList)
    (h : (Text.pad i₁.text Header.identityWidth ++
          Text.pad c₁.display Header.callerWidth).toList ++ xs =
        (Text.pad i₂.text Header.identityWidth ++
          Text.pad c₂.display Header.callerWidth).toList ++ ys) :
    i₁ = i₂ ∧ c₁ = c₂ ∧ xs = ys := by
  have hcolumns := (Identity.selfDelimiting_text.pad Header.identityWidth).append
    (Caller.selfDelimiting_display.pad Header.callerWidth)
  rw [String.toList_append, String.toList_append] at h
  obtain ⟨hpair, hrest⟩ := hcolumns (a := (i₁, ⟨c₁, hc₁⟩)) (b := (i₂, ⟨c₂, hc₂⟩)) h
  obtain ⟨hi, hc⟩ := Prod.mk.inj hpair
  exact ⟨hi, congrArg Subtype.val hc, hrest⟩

theorem Mark.columns_append_inj {debugging : Bool} {m : Mark} {c₁ c₂ : Caller} {i₁ i₂ : Identity}
    {xs ys : List Char} (hc₁ : '(' ∉ c₁.name.toList) (hc₂ : '(' ∉ c₂.name.toList)
    (h : (m.columns debugging c₁ i₁).toList ++ xs = (m.columns debugging c₂ i₂).toList ++ ys) :
    (debugging = true ∧ m ≠ .unknown → i₁ = i₂ ∧ c₁ = c₂) ∧ xs = ys := by
  by_cases hcolumns : debugging = true ∧ m ≠ .unknown
  · rw [columns, if_pos hcolumns, columns, if_pos hcolumns] at h
    obtain ⟨hi, hc, hrest⟩ := debugColumns_append_inj hc₁ hc₂ h
    exact ⟨fun _ => ⟨hi, hc⟩, hrest⟩
  · rw [columns, if_neg hcolumns, columns, if_neg hcolumns] at h
    exact ⟨fun hd => absurd hd hcolumns, List.append_cancel_left h⟩

/-! ### Whole lines -/

namespace Logger

variable {log : Logger} {l₁ l₂ : Level} {c₁ c₂ : Caller} {i₁ i₂ : Identity} {m₁ m₂ : Message}

/-- Two lines that reach standard error as the same bytes are the same text. -/
theorem line_eq_of_emit_eq (h₁ : log.enabled l₁ = true) (h₂ : log.enabled l₂ = true)
    (h : (log.emit i₁ l₁ c₁ m₁).value = (log.emit i₂ l₂ c₂ m₂).value) :
    log.header i₁ l₁ c₁ ++ m₁.written ++ "\n" = log.header i₂ l₂ c₂ ++ m₂.written ++ "\n" := by
  rw [emit_of_enabled h₁, emit_of_enabled h₂, ← utf8_line, ← utf8_line] at h
  exact Text.utf8_inj h

/-- A line tells what it was made of.  If two messages that pass a logger's threshold reach standard error as the
same line, then their levels are shown alike, so that they are the same if both have names, and what the messages
write is the same.  In the debug layout the callers and the processes are the same too, as long as no caller's name
has an opening bracket. -/
theorem emit_inj (h₁ : log.enabled l₁ = true) (h₂ : log.enabled l₂ = true)
    (hc₁ : '(' ∉ c₁.name.toList) (hc₂ : '(' ∉ c₂.name.toList)
    (h : (log.emit i₁ l₁ c₁ m₁).value = (log.emit i₂ l₂ c₂ m₂).value) :
    l₁.display = l₂.display ∧ m₁.written = m₂.written ∧
      (l₁.isNamed = true → l₂.isNamed = true → l₁ = l₂) ∧
      (5 ≤ log.threshold.rank.toInt → l₁.isNamed = true ∨ 5 < l₁.rank.toInt →
        c₁.name = c₂.name ∧ i₁ = i₂) := by
  have hline := congrArg String.toList (line_eq_of_emit_eq h₁ h₂ h)
  simp only [header, Mark.render_eq_field_append_columns, String.toList_append,
    List.append_assoc] at hline
  -- the fields come off from the left, and the newline from the right
  obtain ⟨hmark, hcolumns⟩ := Mark.selfDelimiting_field _ _ hline
  rw [hmark] at hcolumns
  obtain ⟨hwho, hrest⟩ := Mark.columns_append_inj hc₁ hc₂ hcolumns
  have hwritten : m₁.written = m₂.written := String.toList_inj.1 (List.append_cancel_right hrest)
  have hdisplay : l₁.display = l₂.display := by
    rw [← Mark.shown_ofLevel l₁ log.threshold, hmark, Mark.shown_ofLevel]
  refine ⟨hdisplay, hwritten, ?_, ?_⟩
  · intro hn₁ hn₂
    obtain ⟨s₁, hs₁⟩ := Level.isNamed_iff.1 hn₁
    obtain ⟨s₂, hs₂⟩ := Level.isNamed_iff.1 hn₂
    rw [hs₁, hs₂, Level.display_level, Level.display_level] at hdisplay
    rw [hs₁, hs₂, Severity.label_inj hdisplay]
  · intro hdebug hlevel
    have hknown := Mark.ofLevel_ne_unknown hdebug hlevel
    obtain ⟨hi, hc⟩ := hwho ⟨decide_eq_true hdebug, hmark ▸ hknown⟩
    exact ⟨congrArg Caller.name hc, hi⟩

/-- Two levels above debug, a caller that fills its column, and a message that looks like columns and is cut off. -/
theorem emit_inj_above_debug :
    ((⟨⟨7⟩, true⟩ : Logger).emit ⟨1000, 4194304⟩ ⟨6⟩ ⟨"exactly_twenty_eight_charact"⟩
          [.text "[U=0,P=1] ", .text "f()\n"]).value =
        ((⟨⟨7⟩, true⟩ : Logger).emit ⟨1000, 4194304⟩ ⟨7⟩ ⟨"exactly_twenty_eight_charact"⟩
          [.text "[U=0,P=1] f()\n", .fault, .text "lost"]).value ∧
      (⟨6⟩ : Level).display = (⟨7⟩ : Level).display ∧
      Message.written [.text "[U=0,P=1] ", .text "f()\n"] =
        Message.written [.text "[U=0,P=1] f()\n", .fault, .text "lost"] :=
  have h : ((⟨⟨7⟩, true⟩ : Logger).emit ⟨1000, 4194304⟩ ⟨6⟩ ⟨"exactly_twenty_eight_charact"⟩
          [.text "[U=0,P=1] ", .text "f()\n"]).value =
        ((⟨⟨7⟩, true⟩ : Logger).emit ⟨1000, 4194304⟩ ⟨7⟩ ⟨"exactly_twenty_eight_charact"⟩
          [.text "[U=0,P=1] f()\n", .fault, .text "lost"]).value := by decide +kernel
  have hread := emit_inj (by decide) (by decide) (by decide) (by decide) h
  ⟨h, hread.1, hread.2.1⟩

end Logger

end LeveledLog
