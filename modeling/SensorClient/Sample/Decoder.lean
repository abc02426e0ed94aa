import SensorClient.Sample.Reader

/-!
# Decoding samples

A decoder makes one pass over its source at a time. It may only ask the source for bytes and for
how many there are, so a pass is a tree of such questions with the rest of the pass hanging from
each answer. While a pass runs the daemon may send more.

## Main definitions

* `Pass`: one pass of a decoder
* `Pass.run`: the pass over a connection
* `Pass.overBytes`, `Pass.breaksDown`: the pass over bytes in memory
* `Decoder.fixed`, `Decoder.batch`: records of one size, alone or in counted batches
* `Decoder.drain`: passes for as long as they are of use
-/

namespace SensorClient

/-- One pass of a decoder over its source. -/
inductive Pass (α : Type) where
  /-- The pass is over. -/
  | done (a : α)
  /-- Asks for so many bytes. -/
  | take (wanted : Nat) (next : Option Bytes → Pass α)
  /-- Asks how many bytes are there. -/
  | count (next : Nat → Pass α)
  /-- The daemon sends these bytes meanwhile. -/
  | arrival (bytes : Bytes) (next : Pass α)
  /-- The program breaks down, whatever the pass would have come to. -/
  | breakdown (a : α)

namespace Pass

/-- The pass over a connection. -/
def run {α : Type} : Pass α → Reader → α × Reader
  | done a, r => (a, r)
  | take wanted next, r =>
    let (bytes, r) := r.readBytes wanted
    (next bytes).run r
  | count next, r => (next r.bytesAvailable).run r
  | arrival bytes next, r => next.run (r.onLink fun link => (link.feed bytes).2)
  | breakdown a, r => (a, { r with halted := r.halted <|> some .oversized })

/-- The pass over bytes in memory. Asking for more than are left takes nothing, and nobody sends
more. -/
def overBytes {α : Type} : Pass α → Bytes → α × Bytes
  | done a, left => (a, left)
  | take wanted next, left =>
    if wanted ≤ left.length then (next (some (left.take wanted))).overBytes (left.drop wanted)
    else (next none).overBytes left
  | count next, left => (next left.length).overBytes left
  | arrival _ next, left => next.overBytes left
  | breakdown a, left => (a, left)

/-- Whether the program breaks down in the pass over bytes in memory. -/
def breaksDown {α : Type} : Pass α → Bytes → Bool
  | done _, _ => false
  | take wanted next, left =>
    if wanted ≤ left.length then (next (some (left.take wanted))).breaksDown (left.drop wanted)
    else (next none).breaksDown left
  | count next, left => (next left.length).breaksDown left
  | arrival _ next, left => next.breaksDown left
  | breakdown _, _ => true

end Pass

/-- A decoder with states in `σ`. A pass says whether it got a record, and the state after it. -/
structure Decoder (σ : Type) where
  interface : String
  pass : σ → Pass (Bool × σ)

namespace Decoder

variable {σ : Type}

/-- Records of one size, each handed to the sink as it comes. -/
def fixed (interface : String) (size : Nat) (sink : σ → Bytes → σ) : Decoder σ where
  interface := interface
  pass state := .take size fun
    | some record => .done (true, sink state record)
    | none => .done (false, state)

/-- The most records in a batch. -/
def maxBatchRecords : Nat := 4096

/-- Takes a batch of so many records of one size. Nothing limits the size: if the bytes of the batch
are more than a word can count, then fewer are asked for, and the program breaks down when it looks
for the records among them. -/
def takeBatch (size count : Nat) (sink : σ → List Bytes → σ) (state : σ) : Pass (Bool × σ) :=
  .take (wordProduct count size) fun
    | none => .done (false, state)
    | some payload =>
      match Bytes.slices? size count payload with
      | none => .breakdown (false, state)
      | some records => .done (true, sink state records)

/-- Batches of records of one size: first how many, in four bytes, then the records. The sink gets
a batch at a time. A batch that is too large is given up with its count read. -/
def batch (interface : String) (size : Nat) (sink : σ → List Bytes → σ) : Decoder σ where
  interface := interface
  pass state := .take 4 fun
    | none => .done (false, state)
    | some header =>
      let count := Bytes.toWord header
      if maxBatchRecords < count then .done (false, state)
      else takeBatch size count sink state

/-- Makes passes until one gets no record, leaves nothing, or leaves no less than it found; gives
the number of passes. -/
def drain (decoder : Decoder σ) (state : σ) (r : Reader) : Nat × σ × Reader :=
  match (decoder.pass state).run r with
  | ((more, state'), r') =>
    if more ∧ 0 < r'.bytesAvailable ∧ r'.bytesAvailable < r.bytesAvailable then
      let (passes, state, r) := decoder.drain state' r'
      (passes + 1, state, r)
    else (1, state', r')
termination_by r.bytesAvailable

end Decoder

end SensorClient
