import LeveledLog.Proofs.VisibleColumns

/-!
# Columns in debug mode

In debug mode a header is a row of three fields, for the level, the process identity and the caller.  Labels always fit
their column.  An identity or a caller that does not fit is shown in full, and what stands behind it starts as many
columns further right as it is too wide, whatever the level and whether it is colored or not.

* `Header.row_debugRow`: a header without its color codes is that row;
* `Header.extent_debugRow`: how wide the row is;
* `Header.debugRow_fits_iff`: when all three fields fit;
* `Header.standsAt_debugRow`: where the fields start;
* `Logger.columns_in_debug_mode`: where the fields and the message of a line start, for all levels.
-/

namespace LeveledLog

open Text (StandsAt)

theorem Caller.length_display (c : Caller) : c.display.length = c.name.length + 2 :=
  String.length_append _ _

namespace Header

/-! ### The row of a header -/

/-- The fields of a header in debug mode. -/
def debugRow (level : Level) (caller : Caller) (identity : Identity) : List Text.Field :=
  [⟨level.display, labelWidth⟩, ⟨identity.text, identityWidth⟩, ⟨caller.display, callerWidth⟩]

theorem row_debugRow (level : Level) (caller : Caller) (identity : Identity) :
    Text.row (debugRow level caller identity) =
      filled level.display 8 ++ (filled identity.text 19 ++ filled caller.display 30) := by
  simp only [debugRow, Text.row, Text.Field.shown, pad_eq_filled, String.append_empty]
  rfl

theorem widths_debugRow (level : Level) (caller : Caller) (identity : Identity) :
    Text.widths (debugRow level caller identity) = 57 :=
  rfl

/-! ### What overflows -/

/-- A label fits its column, so that the next field starts at the same place behind all of them. -/
theorem extent_label (level : Level) : Text.Field.extent ⟨level.display, labelWidth⟩ = 8 :=
  Nat.max_eq_right level.length_display_le

theorem extent_identity (identity : Identity) :
    Text.Field.extent ⟨identity.text, identityWidth⟩ =
      max 19 (7 + identity.user.toNat.repr.length + identity.process.toNat.repr.length) := by
  rw [Text.Field.extent, identity.length_text, Nat.max_comm]
  rfl

theorem extent_caller (caller : Caller) :
    Text.Field.extent ⟨caller.display, callerWidth⟩ = max 30 (caller.name.length + 2) := by
  rw [Text.Field.extent, caller.length_display, Nat.max_comm]
  rfl

theorem extent_debugRow (level : Level) (caller : Caller) (identity : Identity) :
    Text.extent (debugRow level caller identity) =
      8 + max 19 (7 + identity.user.toNat.repr.length + identity.process.toNat.repr.length) +
        max 30 (caller.name.length + 2) := by
  simp only [debugRow, Text.extent, extent_label, extent_identity, extent_caller, Nat.add_zero,
    Nat.add_assoc]

/-- An identity fits if its numerals have no more than twelve digits, and a caller if its name has no more than 28
characters. -/
theorem debugRow_fits_iff (level : Level) (caller : Caller) (identity : Identity) :
    (∀ f ∈ debugRow level caller identity, f.Fits) ↔
      identity.user.toNat.repr.length + identity.process.toNat.repr.length ≤ 12 ∧
        caller.name.length ≤ 28 := by
  have hlabel : level.display.length ≤ 8 := level.length_display_le
  have hidentity := identity.length_text
  have hcaller := caller.length_display
  rw [debugRow, List.forall_mem_cons, List.forall_mem_cons, List.forall_mem_singleton]
  simp only [Text.Field.Fits, labelWidth, identityWidth, callerWidth]
  omega

/-! ### Where the fields start -/

/-- Each field starts where those in front of it end, and what follows the row starts behind the last one. -/
theorem standsAt_debugRow (level : Level) (caller : Caller) (identity : Identity) (rest : String) :
    let u := identity.user.toNat.repr.length
    let p := identity.process.toNat.repr.length
    let text := Text.row (debugRow level caller identity) ++ rest
    StandsAt (filled level.display 8) 0 text ∧ StandsAt (filled identity.text 19) 8 text ∧
      StandsAt (filled caller.display 30) (8 + max 19 (7 + u + p)) text ∧
      StandsAt rest (8 + max 19 (7 + u + p) + max 30 (caller.name.length + 2)) text := by
  intro u p text
  have hlabel := Text.standsAt_row [] ⟨level.display, labelWidth⟩
    [⟨identity.text, identityWidth⟩, ⟨caller.display, callerWidth⟩] rest
  have hidentity := Text.standsAt_row [⟨level.display, labelWidth⟩] ⟨identity.text, identityWidth⟩
    [⟨caller.display, callerWidth⟩] rest
  have hcaller := Text.standsAt_row [⟨level.display, labelWidth⟩, ⟨identity.text, identityWidth⟩]
    ⟨caller.display, callerWidth⟩ [] rest
  have hrest := Text.standsAt_row_end (debugRow level caller identity) rest
  simp only [Text.extent, Text.Field.shown, extent_label, extent_identity, pad_eq_filled,
    Nat.add_zero] at hlabel hidentity hcaller
  rw [extent_debugRow] at hrest
  exact ⟨hlabel, hidentity, hcaller, hrest⟩

end Header

namespace Logger

/-- In debug mode the columns of a header move only where a field in front of them does not fit.  Apart from the codes
around the label, which are there if colors are on, the identity starts at column 8, the caller behind the 19 columns
of the identity or the seven characters and the digits that it takes, and the message behind the 30 columns of the
caller or the name and the two characters that it takes.  None of it depends on the level, on the threshold or on the
color setting.  Messages start at column 57 exactly if the identity and the caller fit, and what does not fit is still
there in full. -/
theorem columns_in_debug_mode (identity : Identity) (caller : Caller) :
    let u := identity.user.toNat.repr.length
    let p := identity.process.toNat.repr.length
    let c := caller.name.length
    let identityField := Header.filled
      ("[U=" ++ identity.user.toNat.repr ++ ",P=" ++ identity.process.toNat.repr ++ "]") 19
    let callerField := Header.filled (caller.name ++ "()") 30
    let callerColumn := 8 + max 19 (7 + u + p)
    let messageColumn := 8 + max 19 (7 + u + p) + max 30 (c + 2)
    ∀ (log : Logger) (level : Level), 5 ≤ log.threshold.rank.toInt →
      level.isNamed = true ∨ 5 < level.rank.toInt →
        let color := if log.colored then Level.colorCode level.rank.toInt else ""
        let reset := if log.colored then "\x1b[0m" else ""
        let label := Header.filled level.display 8
        let header := log.header identity level caller
        header = color ++ label ++ reset ++ (identityField ++ callerField) ∧
          (label ++ (identityField ++ callerField)).length = messageColumn ∧
          (messageColumn = 57 ↔ u + p ≤ 12 ∧ c ≤ 28) ∧
          ∀ message : Message,
            let line := label ++ (identityField ++ callerField) ++ (message.written ++ "\n")
            StandsAt label 0 line ∧ StandsAt identityField 8 line ∧
              StandsAt callerField callerColumn line ∧
              StandsAt (message.written ++ "\n") messageColumn line ∧
              (level ≤ log.threshold → (log.emit identity level caller message).value =
                Text.utf8 (header ++ message.written ++ "\n")) := by
  intro u p c identityField callerField callerColumn messageColumn log level hdebug hlevel color reset
    label header
  have hselect : Layout.select level log.threshold = .debug :=
    Layout.select_eq_debug_iff.2 ⟨hdebug, hlevel⟩
  have hrow : label ++ (identityField ++ callerField) =
      Text.row (Header.debugRow level caller identity) :=
    (Header.row_debugRow level caller identity).symm
  have hextent : Text.extent (Header.debugRow level caller identity) = messageColumn :=
    Header.extent_debugRow level caller identity
  refine ⟨?_, ?_, ?_, fun message => ?_⟩
  · have hheader := Header.render_of_asDebug (Header.asDebug_iff.2 ⟨hselect, rfl⟩) log.colored caller
      identity
    exact hheader.trans String.append_assoc
  · rw [hrow, Text.length_row, hextent]
  · rw [← hextent, ← Header.debugRow_fits_iff level, ← Text.extent_eq_widths_iff,
      Header.widths_debugRow]
  · rw [hrow]
    obtain ⟨hlabel, hidentity, hcaller, hmessage⟩ :=
      Header.standsAt_debugRow level caller identity (message.written ++ "\n")
    exact ⟨hlabel, hidentity, hcaller, hmessage, fun hle => value_emit_of_le hle identity caller message⟩

/-- A level above debug in its color, written by a process and by a caller of 33 characters that both do not fit. -/
theorem columns_in_debug_mode_of_overflow :
    let identity : Identity := ⟨4294967295, 1234567890⟩
    let caller : Caller := ⟨"überträgt_die_größte_aller_längen"⟩
    let log : Logger := ⟨⟨9⟩, true⟩
    let header := log.header identity ⟨9⟩ caller
    (5 : Int) ≤ log.threshold.rank.toInt ∧ (5 : Int) < (⟨9⟩ : Level).rank.toInt ∧
      (⟨9⟩ : Level) ≤ log.threshold ∧
      header = "\x1b[0m" ++ "????    " ++ "\x1b[0m" ++ ("[U=4294967295,P=1234567890]" ++
        "überträgt_die_größte_aller_längen()") ∧
      StandsAt "m\n" 70
        ("????    " ++ ("[U=4294967295,P=1234567890]" ++ "überträgt_die_größte_aller_längen()") ++
          "m\n") ∧
      (log.emit identity ⟨9⟩ caller [.text "m"]).value = Text.utf8 (header ++ "m" ++ "\n") := by
  intro identity caller log header
  have hdebug : (5 : Int) ≤ log.threshold.rank.toInt := by decide
  have habove : (5 : Int) < (⟨9⟩ : Level).rank.toInt := by decide
  have hle : (⟨9⟩ : Level) ≤ log.threshold := by decide
  obtain ⟨hheader, -, -, hline⟩ := columns_in_debug_mode identity caller log ⟨9⟩ hdebug (.inr habove)
  obtain ⟨-, -, -, hmessage, hemit⟩ := hline [.text "m"]
  have hcolor : Level.colorCode (⟨9⟩ : Level).rank.toInt = "\x1b[0m" := by decide +kernel
  have hlabel : Header.filled (⟨9⟩ : Level).display 8 = "????    " := by decide +kernel
  have hidentity : Header.filled ("[U=" ++ identity.user.toNat.repr ++ ",P=" ++
      identity.process.toNat.repr ++ "]") 19 = "[U=4294967295,P=1234567890]" := by decide +kernel
  have hcaller : Header.filled (caller.name ++ "()") 30 = "überträgt_die_größte_aller_längen()" := by
    decide +kernel
  have hcolumn : 8 + max 19 (7 + identity.user.toNat.repr.length +
      identity.process.toNat.repr.length) + max 30 (caller.name.length + 2) = 70 := by decide +kernel
  rw [hcolor, hlabel, hidentity, hcaller] at hheader
  rw [hlabel, hidentity, hcaller, hcolumn] at hmessage
  exact ⟨hdebug, habove, hle, hheader, hmessage, hemit hle⟩

end Logger

end LeveledLog
