import SensorClient.Sample.Handshake

/-!
# Reading samples

A reader holds at most one connection at a time. A new connection replaces the one it holds only
once a session is open on it. Every connection that the reader was given and does not hold has
been closed.

## Main definitions

* `Reader`: the connection held and the ones closed
* `Reader.adopt`, `Reader.connect`: opens a session on a new connection
* `Reader.readBytes`, `Reader.read`: the next bytes
* `Reader.dropConnection`: closes the connection held
-/

namespace SensorClient

/-- Why reading never comes back. -/
inductive Halt where
  /-- Too few bytes are there, and neither a limit nor the end of the stream ends the wait. -/
  | waiting
  /-- No memory can hold so many bytes, or no word can count them. -/
  | oversized
deriving DecidableEq, Repr

/-- The connection that a client reads samples from. -/
structure Reader where
  config : SocketConfig
  /-- The connection held. -/
  link : Option Link
  /-- Whether the client wants to hear of samples. -/
  subscribed : Bool
  /-- The connections that were closed, in that order. -/
  closed : List Link
  /-- Set where reading first does not come back; nothing after that takes place. -/
  halted : Option Halt
deriving DecidableEq, Repr

namespace Reader

/-- A reader without a connection. -/
def idle (config : SocketConfig) : Reader := ⟨config, none, false, [], none⟩

/-- Whether a connection is held. -/
def isConnected (r : Reader) : Bool := r.link.isSome

/-- The connection held, if any, among the closed ones. -/
def closedWithHeld (r : Reader) : List Link :=
  r.closed ++ r.link.toList.map fun link => link.close.2

/-- Opens a session on a connection. Where that works the connection replaces the one held, which
is closed; otherwise it is closed itself and nothing else changes. -/
def adopt (r : Reader) (sessionId : Int32) (link : Link) : Except SocketError Unit × Reader :=
  match link.handshake r.config sessionId with
  | (.ok (), link) => (.ok (), { r with link := some link, closed := r.closedWithHeld })
  | (.error e, link) => (.error e, { r with closed := r.closed ++ [link.close.2] })

/-- Reaches the daemon at the configured path and opens a session there. -/
def connect (r : Reader) (sessionId : Int32) (listening : String → Except SystemError Link) :
    Except SocketError Unit × Reader :=
  match reach listening r.config.path with
  | .error e => (.error e, r)
  | .ok link => r.adopt sessionId link

/-- Closes the connection held and forgets the subscription; says whether closing worked. -/
def dropConnection (r : Reader) : Bool × Reader :=
  (match r.link with
    | none => true
    | some link => link.close.1.isOk,
    { r with link := none, subscribed := false, closed := r.closedWithHeld })

/-- The fewest bytes that no read can ask for: one more than a signed 64-bit word can count. -/
def readLimit : Nat := 9223372036854775808

theorem readLimit_lt : readLimit < UInt64.size := by decide

/-- The next bytes, if there are that many. -/
def readBytes (r : Reader) (wanted : Nat) : Option Bytes × Reader :=
  match r.link with
  | none => (none, r)
  | some link =>
    if readLimit ≤ wanted then (none, { r with halted := r.halted <|> some .oversized })
    else
      match link.readExact wanted with
      | (.ok bytes, link) => (some bytes, { r with link := some link })
      | (.error .waiting, link) =>
        (none, { r with link := some link, halted := r.halted <|> some .waiting })
      | (.error _, link) => (none, { r with link := some link })

/-- Fills a buffer with the next bytes, or leaves it as it is. -/
def read (r : Reader) (buffer : Bytes) : Bool × Bytes × Reader :=
  match r.readBytes buffer.length with
  | (some bytes, r) => (true, bytes, r)
  | (none, r) => (false, buffer, r)

/-- The number of bytes that can be read now; none without a sound connection. -/
def bytesAvailable (r : Reader) : Nat :=
  match r.link with
  | none => 0
  | some link => link.available.toOption.getD 0

/-- Asks to hear of samples. -/
def subscribe (r : Reader) : Reader := { r with subscribed := true }

/-- Asks no more. -/
def unsubscribe (r : Reader) : Reader := { r with subscribed := false }

/-- What one wait for bytes finds. -/
def waitReadable (r : Reader) : Except SocketError Readiness :=
  match r.link with
  | none => .error .notConnected
  | some link => .ok link.waitReadable

/-- Waits for bytes, for a limited time or for ever. Only an invalid descriptor ends a wait
without a limit while nothing comes. -/
def await (r : Reader) (limit : Option Duration) : Except SocketError Readiness × Reader :=
  let patient := limit.isNone && r.link.any fun link => !link.broken
  match r.waitReadable with
  | .ok .timeout =>
    (.ok .timeout, if patient then { r with halted := r.halted <|> some .waiting } else r)
  | found => (found, r)

/-- The daemon does something on the connection held. -/
def onLink (r : Reader) (act : Link → Link) : Reader := { r with link := r.link.map act }

end Reader

end SensorClient
