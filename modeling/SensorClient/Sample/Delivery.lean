import SensorClient.Bytes
import SensorClient.Sample.SystemError

/-!
# Reading a known number of bytes

A source delivers its bytes in chunks of its own choosing. Each read asks for the bytes that are
still missing and may be given fewer, may be interrupted, or may find that the stream is at its
end or broken. A read is done when it has as many bytes as it was asked for.

## Main definitions

* `Delivery`: what a source has to say next
* `readFull`: the next bytes, as many as asked for, and the deliveries that are left
* `Delivery.pending`: the bytes that are yet to be delivered
-/

namespace SensorClient

/-- What a source has to say next; a chunk holds at least one byte. -/
inductive Delivery where
  | chunk (first : UInt8) (rest : Bytes)
  | interrupted
  | endOfStream
  | failed (e : SystemError)
deriving DecidableEq, Repr

/-- A chunk of these bytes, if there are any. -/
def Delivery.ofBytes : Bytes → List Delivery
  | [] => []
  | b :: rest => [chunk b rest]

/-- The bytes among the deliveries. -/
def Delivery.pending (deliveries : List Delivery) : Bytes :=
  deliveries.flatMap fun
    | chunk b rest => b :: rest
    | _ => []

@[simp] theorem Delivery.pending_ofBytes (bytes : Bytes) : pending (ofBytes bytes) = bytes := by
  cases bytes <;> simp [ofBytes, pending]

/-- Why a read has not got its bytes. -/
inductive ReadFault where
  /-- The stream ended first. -/
  | closed
  /-- The system refused. -/
  | failed (e : SystemError)
  /-- Nothing more is delivered, and nothing ends the wait. -/
  | waiting
deriving DecidableEq, Repr

/-- The wording of a fault. -/
def ReadFault.text : ReadFault → String
  | closed => "connection closed by daemon"
  | failed e => s!"socket I/O error: {e.text}"
  | waiting => "still waiting"

/-- The next `wanted` bytes and what is left after them. A fault takes the bytes before it. -/
def readFull : Nat → List Delivery → Except ReadFault Bytes × List Delivery
  | 0, deliveries => (.ok [], deliveries)
  | _ + 1, [] => (.error .waiting, [])
  | wanted + 1, .chunk b rest :: later =>
    if rest.length ≤ wanted then
      let (result, left) := readFull (wanted - rest.length) later
      (result.map fun bytes => b :: rest ++ bytes, left)
    else (.ok (b :: rest.take wanted), Delivery.ofBytes (rest.drop wanted) ++ later)
  | wanted + 1, .interrupted :: later => readFull (wanted + 1) later
  | _ + 1, .endOfStream :: later => (.error .closed, .endOfStream :: later)
  | _ + 1, .failed e :: later => (.error (.failed e), later)

end SensorClient
