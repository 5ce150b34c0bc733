import LeveledLog.Text.Utf8

/-!
# Sinks

A sink takes bytes, a limited number of them or any.  One call hands it some bytes and it takes as many as it
has room for; a sink without room refuses the call.  Handing over all of some bytes repeats the call with what
is left after a short one, and gives up at a refusal.

* `writeAll_of_accepts`: what a sink takes in one call is handed over in one call;
* `writeAll_unlimited`: a sink without a limit takes everything in one call.
-/

namespace LeveledLog

/-- A sink of bytes: how many it takes in all, what it took so far, and how often it was called. -/
structure Sink where
  capacity : Option Nat
  taken : Bytes
  calls : Nat
  deriving DecidableEq

namespace Sink

/-- A sink that was not called yet. -/
def fresh (capacity : Option Nat) : Sink :=
  ⟨capacity, [], 0⟩

/-- How many of `n` bytes a sink takes in one call. -/
def accepts (s : Sink) (n : Nat) : Nat :=
  match s.capacity with
  | some c => min (c - s.taken.length) n
  | none => n

/-- One call of a sink. -/
def write (s : Sink) (bs : Bytes) : Sink :=
  { s with taken := s.taken ++ bs.take (s.accepts bs.length), calls := s.calls + 1 }

/-- Hands over all of some bytes, by as many calls as that takes, or up to the first refusal. -/
def writeAll (s : Sink) (bs : Bytes) : Sink :=
  if bs = [] then s
  else if s.accepts bs.length = 0 then s.write bs
  else (s.write bs).writeAll (bs.drop (s.accepts bs.length))
termination_by bs.length
decreasing_by
  rw [List.length_drop]
  have : 0 < bs.length := List.length_pos_iff.2 ‹_›
  omega

@[simp] theorem writeAll_nil (s : Sink) : s.writeAll [] = s := by
  rw [writeAll, if_pos rfl]

/-- A call that takes everything is the only one. -/
theorem writeAll_of_accepts {s : Sink} {bs : Bytes} (h : s.accepts bs.length = bs.length) :
    s.writeAll bs = if bs = [] then s else s.write bs := by
  rw [writeAll, h, List.drop_length, writeAll_nil]
  split
  · rfl
  · split <;> rfl

theorem writeAll_unlimited {s : Sink} (bs : Bytes) (h : s.capacity = none) :
    s.writeAll bs = if bs = [] then s else s.write bs :=
  writeAll_of_accepts (by rw [accepts, h])

theorem writeAll_unlimited_of_ne_nil (taken : Bytes) (calls : Nat) {bs : Bytes} (h : bs ≠ []) :
    writeAll ⟨none, taken, calls⟩ bs = ⟨none, taken ++ bs, calls + 1⟩ := by
  rw [writeAll_unlimited bs rfl, if_neg h, write]
  show (⟨none, taken ++ bs.take bs.length, calls + 1⟩ : Sink) = ⟨none, taken ++ bs, calls + 1⟩
  rw [List.take_length]

end Sink

end LeveledLog
