import LeveledLog.Proofs.Emission

/-!
# Sinks that fill up

A sink with a limit takes of some bytes what it has room for.  If that is not all of them, the rest is handed over
again, and the sink refuses it: a second call is made exactly after a short one, and it brings nothing.  So a sink
holds a front part of a line, cut at its capacity and nowhere else.

* `Sink.write_limited`: what one call leaves in a sink with a limit;
* `Sink.writeAll_of_full`, `Sink.writeAll_of_room`, `Sink.writeAll_of_short`: the refusal, the call that takes all,
  and the short call with the refusal behind it;
* `Sink.writeAll_limited`: the bytes taken and the calls made, in all three cases;
* `Logger.writeTo_limited`: what is left of a line in a sink of any capacity.
-/

namespace LeveledLog

namespace Sink

variable {c : Nat} {taken bs : Bytes}

/-! ### Calls of a sink with a limit -/

theorem accepts_limited (c : Nat) (taken : Bytes) (calls n : Nat) :
    accepts ⟨some c, taken, calls⟩ n = min (c - taken.length) n := rfl

/-- One call takes the front part that there is room for. -/
theorem write_limited (c : Nat) (taken : Bytes) (calls : Nat) (bs : Bytes) :
    write ⟨some c, taken, calls⟩ bs =
      ⟨some c, taken ++ bs.take (c - taken.length), calls + 1⟩ := by
  rw [write, accepts_limited, ← List.take_eq_take_min]

/-- A sink without room refuses the first call, and no other one is made. -/
theorem writeAll_of_full (hroom : c - taken.length = 0) (hbs : bs ≠ []) (calls : Nat) :
    writeAll ⟨some c, taken, calls⟩ bs = ⟨some c, taken, calls + 1⟩ := by
  have hrefused : accepts ⟨some c, taken, calls⟩ bs.length = 0 := by
    rw [accepts_limited, hroom, Nat.zero_min]
  rw [writeAll, if_neg hbs, if_pos hrefused, write_limited, hroom, List.take_zero, List.append_nil]

/-- A sink with room for everything takes it in the first call. -/
theorem writeAll_of_room (hroom : bs.length ≤ c - taken.length) (hbs : bs ≠ []) (calls : Nat) :
    writeAll ⟨some c, taken, calls⟩ bs = ⟨some c, taken ++ bs, calls + 1⟩ := by
  have hall : accepts ⟨some c, taken, calls⟩ bs.length = bs.length :=
    Nat.min_eq_right hroom
  rw [writeAll_of_accepts hall, if_neg hbs, write_limited, List.take_of_length_le hroom]

/-- A sink with room for a part takes it, and the call with the rest is refused. -/
theorem writeAll_of_short (hsome : 0 < c - taken.length) (hshort : c - taken.length < bs.length)
    (calls : Nat) :
    writeAll ⟨some c, taken, calls⟩ bs =
      ⟨some c, taken ++ bs.take (c - taken.length), calls + 2⟩ := by
  have hpart : accepts ⟨some c, taken, calls⟩ bs.length = c - taken.length :=
    Nat.min_eq_left (Nat.le_of_lt hshort)
  have hbs : bs ≠ [] := List.ne_nil_of_length_pos (Nat.lt_trans hsome hshort)
  have hrest : bs.drop (c - taken.length) ≠ [] := by
    intro h
    have hle : bs.length ≤ c - taken.length := List.drop_eq_nil_iff.1 h
    omega
  -- the first call has used up the room
  have hfull : c - (taken ++ bs.take (c - taken.length)).length = 0 := by
    rw [List.length_append, List.length_take]
    omega
  rw [writeAll, hpart, if_neg hbs, if_neg (Nat.pos_iff_ne_zero.1 hsome), write_limited,
    writeAll_of_full hfull hrest]

/-! ### All of some bytes -/

/-- How many calls hand over so many bytes to a sink with some room: none if there are no bytes, one if it takes all
of them or refuses them, and two if it takes a part. -/
def attempts (room count : Nat) : Nat :=
  if count = 0 then 0 else if count ≤ room ∨ room = 0 then 1 else 2

/-- A sink with a limit ends up with the front part that it had room for. -/
theorem writeAll_limited (c : Nat) (taken : Bytes) (calls : Nat) (bs : Bytes) :
    writeAll ⟨some c, taken, calls⟩ bs =
      ⟨some c, taken ++ bs.take (c - taken.length),
        calls + attempts (c - taken.length) bs.length⟩ := by
  by_cases hbs : bs = []
  · rw [hbs, writeAll_nil, List.take_nil, List.append_nil]
    rfl
  have hcount : bs.length ≠ 0 := mt List.length_eq_zero_iff.1 hbs
  by_cases hfull : c - taken.length = 0
  · rw [writeAll_of_full hfull hbs, attempts, if_neg hcount, if_pos (.inr hfull), hfull,
      List.take_zero, List.append_nil]
  by_cases hroom : bs.length ≤ c - taken.length
  · rw [writeAll_of_room hroom hbs, attempts, if_neg hcount, if_pos (.inl hroom),
      List.take_of_length_le hroom]
  · have hneither : ¬(bs.length ≤ c - taken.length ∨ c - taken.length = 0) :=
      not_or.2 ⟨hroom, hfull⟩
    rw [writeAll_of_short (Nat.pos_of_ne_zero hfull) (Nat.not_le.1 hroom), attempts, if_neg hcount,
      if_neg hneither]

/-- The limit may cut a character. -/
example : writeAll ⟨some 2, [], 0⟩ (Text.utf8 "aé") = ⟨some 2, [0x61, 0xC3], 2⟩ := by
  decide +kernel

end Sink

/-! ### A line -/

/-- A sink of any capacity ends up with the front part of the line that fits, byte for byte: of the line that a sink
without a limit gets, and that is no bytes at all if the level does not pass.  It is called once if it takes all of
the line or none of it, a second time after a short call, and not at all without a line.  The message is formatted
once if its level passes, and else not, whatever the capacity.  What is refused is lost without an error, and the
logger stays as it is. -/
theorem Logger.writeTo_limited (log : Logger) (identity : Identity) (level : Level)
    (caller : Caller) (message : Message) (c : Nat) :
    let line := (log.writeTo (.fresh none) identity level caller message).value.taken
    let result := log.writeTo (.fresh (some c)) identity level caller message
    result.value.taken = line.take (min c line.length) ∧
      result.value.calls =
        (if line.length = 0 then 0 else if line.length ≤ c ∨ c = 0 then 1 else 2) ∧
      (line.length = 0 ↔ ¬level ≤ log.threshold) ∧
      result.usage = (if level ≤ log.threshold then .formatting else 0) ∧
      log.perform identity (.writeTo level caller message (some c)) = (.delivery result, log) := by
  intro line result
  by_cases h : level ≤ log.threshold
  · have hon : log.enabled level = true := enabled_iff.2 h
    have hne : log.lineBytes identity level caller message ≠ [] :=
      lineBytes_ne_nil log identity level caller message
    have hline : line = log.lineBytes identity level caller message := by
      show (log.writeTo (.fresh none) identity level caller message).value.taken = _
      rw [writeTo_of_enabled hon, Sink.fresh, Sink.writeAll_unlimited_of_ne_nil [] 0 hne,
        List.nil_append]
    have hresult : result =
        ⟨⟨some c, line.take c, Sink.attempts c line.length⟩, .formatting⟩ := by
      show log.writeTo (.fresh (some c)) identity level caller message = _
      rw [writeTo_of_enabled hon, Sink.fresh, Sink.writeAll_limited, List.nil_append, Nat.zero_add,
        List.length_nil, Nat.sub_zero, hline]
    rw [hresult]
    refine ⟨List.take_eq_take_min, rfl, ?_, (if_pos h).symm, ?_⟩
    · rw [hline]
      exact iff_of_false (mt List.length_eq_zero_iff.1 hne) (not_not_intro h)
    · rw [← hresult]
      rfl
  · have hoff : log.enabled level = false := decide_eq_false h
    have hline : line = [] := by
      show (log.writeTo (.fresh none) identity level caller message).value.taken = []
      rw [writeTo_of_not_enabled hoff, Sink.fresh]
    have hresult : result = ⟨.fresh (some c), 0⟩ :=
      writeTo_of_not_enabled hoff _ identity caller message
    rw [hresult, hline]
    refine ⟨List.take_nil.symm, rfl, iff_of_true rfl h, (if_neg h).symm, ?_⟩
    rw [← hresult]
    rfl

end LeveledLog
