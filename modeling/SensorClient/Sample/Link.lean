import SensorClient.Duration
import SensorClient.Sample.Delivery

/-!
# A connection to the daemon

A link joins the client to the daemon and holds the bytes under way in both directions. The daemon
may stop sending and still receive. When the daemon has stopped sending, the bytes it sent before
can still be read. The client's descriptor can become invalid under its hands, which the daemon
sees as the end of the connection.

## Main definitions

* `Link`: both ends of a connection
* `Link.feed`, `Link.shutdown`, `Link.hangUp`, `Link.collect`: what the daemon does
* `Link.write`, `Link.read`, `Link.readExact`, `Link.available`, `Link.waitReadable`,
  `Link.close`: what the client does
-/

namespace SensorClient

/-- What a wait for bytes finds. -/
inductive Readiness where
  | readable
  | hangup
  | timeout
deriving DecidableEq, Repr

/-- Both ends of a connection and the bytes between them. -/
structure Link where
  /-- Which connection this is. -/
  serial : Nat
  /-- Sent by the daemon and not yet read. -/
  inbound : Bytes
  /-- Written by the client and not yet collected. -/
  outbound : Bytes
  /-- Whether the daemon may still send. -/
  sending : Bool
  /-- Whether the daemon holds its end open. -/
  daemonOpen : Bool
  /-- Whether the client holds its end open. -/
  clientOpen : Bool
  /-- Whether the client's descriptor has become invalid. -/
  broken : Bool
  readTimeout : Option Duration
  writeTimeout : Option Duration
deriving DecidableEq, Repr

namespace Link

/-- A connection on which these bytes have arrived and the daemon may send more. -/
def fresh (serial : Nat) (inbound : Bytes) : Link :=
  ⟨serial, inbound, [], true, true, true, false, none, none⟩

/-! ## The daemon's end -/

/-- Whether the client's end is gone. -/
def clientGone (link : Link) : Bool := !link.clientOpen || link.broken

/-- Sends bytes; says whether that worked. Sending nothing works on any open end. -/
def feed (link : Link) (bytes : Bytes) : Bool × Link :=
  if !link.daemonOpen then (false, link)
  else if bytes.isEmpty then (true, link)
  else if link.sending && !link.clientGone then
    (true, { link with inbound := link.inbound ++ bytes })
  else (false, link)

/-- Stops sending. -/
def shutdown (link : Link) : Link := { link with sending := false }

/-- Takes what the client has written. -/
def collect (link : Link) : Bytes × Link := (link.outbound, { link with outbound := [] })

/-- Closes the daemon's end. -/
def hangUp (link : Link) : Link := { link with sending := false, daemonOpen := false }

/-! ## The client's end -/

/-- Makes the client's descriptor invalid. -/
def breakDescriptor (link : Link) : Link := { link with broken := true }

/-- Writes bytes; gives their number. Either all of them are taken at once or none is: a connection
that takes a part of them, or that makes the client wait until it takes more, is left out. -/
def write (link : Link) (bytes : Bytes) : Except SystemError Nat × Link :=
  if link.broken then (.error .badDescriptor, link)
  else if !link.daemonOpen then (.error .brokenPipe, link)
  else (.ok bytes.length, { link with outbound := link.outbound ++ bytes })

/-- The number of bytes that can be read now. -/
def available (link : Link) : Except SystemError Nat :=
  if link.broken then .error .badDescriptor else .ok link.inbound.length

/-- What one wait for bytes finds. A broken descriptor is never ready. -/
def waitReadable (link : Link) : Readiness :=
  if link.broken then .timeout
  else if !link.inbound.isEmpty then .readable
  else if link.sending then .timeout
  else .hangup

/-- What the next reads are going to meet, unless more is sent: the bytes that have arrived, then
the end of the stream, or the end of the wait if waits are limited. -/
def deliveries (link : Link) : List Delivery :=
  if link.broken then [.failed .badDescriptor]
  else
    Delivery.ofBytes link.inbound ++
      if !link.sending then [.endOfStream]
      else if link.readTimeout.isSome then [.failed .wouldBlock]
      else []

/-- One read of at most `limit` bytes: whatever is there, and nothing at the end of the stream. A
read of no bytes still waits for something to be there. -/
def read (link : Link) (limit : Nat) : Except SystemError Bytes × Link :=
  if link.broken then (.error .badDescriptor, link)
  else if link.inbound.isEmpty && link.sending then (.error .wouldBlock, link)
  else (.ok (link.inbound.take limit), { link with inbound := link.inbound.drop limit })

/-- Exactly so many bytes. A fault takes the bytes that were there. -/
def readExact (link : Link) (wanted : Nat) : Except ReadFault Bytes × Link :=
  let (result, left) := readFull wanted link.deliveries
  (result, if link.broken then link else { link with inbound := Delivery.pending left })

/-- Limits the waits of reads, or sets no limit. -/
def setReadTimeout (link : Link) (limit : Option Duration) : Except SystemError Link :=
  if limit = some ⟨0⟩ then .error .zeroTimeout
  else if link.broken then .error .badDescriptor
  else .ok { link with readTimeout := limit }

/-- Limits the waits of writes, or sets no limit. -/
def setWriteTimeout (link : Link) (limit : Option Duration) : Except SystemError Link :=
  if limit = some ⟨0⟩ then .error .zeroTimeout
  else if link.broken then .error .badDescriptor
  else .ok { link with writeTimeout := limit }

/-- Closes the client's end; a descriptor that has become invalid cannot be closed. -/
def close (link : Link) : Except SystemError Unit × Link :=
  (if link.broken then .error .badDescriptor else .ok (), { link with clientOpen := false })

end Link

end SensorClient
