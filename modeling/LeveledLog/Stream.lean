import LeveledLog.Sink

/-!
# Streams

A program that writes diagnostics of its own asks for the stream they belong on: standard error, or a stream
that drops everything.  A request to standard error is carried out call by call on its device, which may be
full; a request to the other stream needs no device.

* `handle`: a request, with its response and what the device then holds;
* `handle_unlimited`: a device without a limit refuses nothing, so that both streams respond alike, and it
  gets what the stream lets through.
-/

namespace LeveledLog

/-- Where diagnostics go. -/
inductive Stream
  | stderr
  | discard
  deriving DecidableEq

/-- A request to a stream. -/
inductive Request
  /-- To take a text, and report how many bytes were taken. -/
  | write (text : String)
  /-- To take all of a text. -/
  | writeAll (text : String)
  /-- To take all of a text and a newline. -/
  | writeLine (text : String)
  /-- To hand on what was taken. -/
  | flush

/-- What a program gets back from a request. -/
inductive Response
  /-- So many bytes were taken. -/
  | accepted (count : Nat)
  | done
  | refused
  deriving DecidableEq

namespace Request

/-- The bytes that a request brings. -/
def bytes : Request → Bytes
  | .write text => Text.utf8 text
  | .writeAll text => Text.utf8 text
  | .writeLine text => Text.utf8 (text ++ "\n")
  | .flush => []

/-- The response that reports success on a request. -/
def success : Request → Response
  | .write text => .accepted (Text.utf8 text).length
  | _ => .done

end Request

/-! ### Requests on a device -/

namespace Sink

/-- The response to one call of a sink, which is refused if some bytes were offered and none was taken. -/
def offer (s : Sink) (bs : Bytes) : Response × Sink :=
  (if bs ≠ [] ∧ s.accepts bs.length = 0 then .refused else .accepted (s.accepts bs.length),
    s.write bs)

/-- The response to handing over all of some bytes, which is refused if a part of them was not taken. -/
def offerAll (s : Sink) (bs : Bytes) : Response × Sink :=
  (if (s.writeAll bs).taken = s.taken ++ bs then .done else .refused, s.writeAll bs)

end Sink

/-- A request that goes on if the first part of it was not refused. -/
def Response.andThen (first : Response × Sink) (next : Sink → Response × Sink) : Response × Sink :=
  match first.1 with
  | .refused => first
  | _ => next first.2

namespace Stream

/-- Whether a stream drops everything. -/
def isDiscard (s : Stream) : Bool :=
  decide (s = .discard)

/-- The response to a request on a stream, and the device of standard error afterwards.  A line is handed over
in two parts. -/
def handle (stderr : Sink) : Stream → Request → Response × Sink
  | .stderr, .write text => stderr.offer (Text.utf8 text)
  | .stderr, .writeAll text => stderr.offerAll (Text.utf8 text)
  | .stderr, .writeLine text =>
    Response.andThen (stderr.offerAll (Text.utf8 text)) fun s => s.offerAll (Text.utf8 "\n")
  | .stderr, .flush => (.done, stderr)
  | .discard, .write text => (.accepted (Text.utf8 text).length, stderr)
  | .discard, .writeAll _ => (.done, stderr)
  | .discard, .writeLine _ => (.done, stderr)
  | .discard, .flush => (.done, stderr)

/-- What reaches standard error of the bytes handed to a stream. -/
def reaches : Stream → Bytes → Bytes
  | .stderr, bs => bs
  | .discard, _ => []

@[simp] theorem reaches_stderr (bs : Bytes) : Stream.stderr.reaches bs = bs := rfl

@[simp] theorem reaches_discard (bs : Bytes) : Stream.discard.reaches bs = [] := rfl

end Stream

/-! ### Devices without a limit -/

namespace Sink

variable (taken : Bytes) (calls : Nat) (bs : Bytes)

theorem offer_unlimited :
    (Sink.mk none taken calls).offer bs =
      (.accepted bs.length, ⟨none, taken ++ bs, calls + 1⟩) := by
  have haccepts : (Sink.mk none taken calls).accepts bs.length = bs.length := rfl
  have hroom : ¬(bs ≠ [] ∧ bs.length = 0) := fun h => h.1 (List.length_eq_zero_iff.1 h.2)
  rw [offer, haccepts, if_neg hroom, write, haccepts, List.take_length]

theorem offerAll_unlimited :
    ∃ calls', (Sink.mk none taken calls).offerAll bs = (.done, ⟨none, taken ++ bs, calls'⟩) := by
  by_cases h : bs = []
  · refine ⟨calls, ?_⟩
    rw [h, offerAll, writeAll_nil, List.append_nil, if_pos rfl]
  · refine ⟨calls + 1, ?_⟩
    rw [offerAll, writeAll_unlimited_of_ne_nil taken calls h, if_pos rfl]

end Sink

/-- On a device without a limit every request succeeds, on either stream, and standard error has what the stream
lets through. -/
theorem Stream.handle_unlimited (s : Stream) (r : Request) (taken : Bytes) (calls : Nat) :
    ∃ calls', s.handle ⟨none, taken, calls⟩ r =
      (r.success, ⟨none, taken ++ s.reaches r.bytes, calls'⟩) := by
  cases s with
  | stderr =>
    cases r with
    | write text => exact ⟨calls + 1, Sink.offer_unlimited taken calls _⟩
    | writeAll text => exact Sink.offerAll_unlimited taken calls _
    | writeLine text =>
      obtain ⟨calls₁, hfirst⟩ := Sink.offerAll_unlimited taken calls (Text.utf8 text)
      obtain ⟨calls₂, hnext⟩ :=
        Sink.offerAll_unlimited (taken ++ Text.utf8 text) calls₁ (Text.utf8 "\n")
      refine ⟨calls₂, ?_⟩
      rw [handle, hfirst, Response.andThen, hnext, reaches_stderr, Request.bytes,
        Text.utf8_append, List.append_assoc]
      rfl
    | flush => exact ⟨calls, by rw [reaches_stderr, Request.bytes, List.append_nil]; rfl⟩
  | discard =>
    refine ⟨calls, ?_⟩
    rw [reaches_discard, List.append_nil]
    cases r <;> rfl

/-- A device that is full refuses a text on standard error, and only there. -/
example : (Stream.stderr.handle (.fresh (some 0)) (.write "a")).1 = .refused ∧
    (Stream.discard.handle (.fresh (some 0)) (.write "a")).1 = .accepted 1 := by
  decide +kernel

end LeveledLog
