import SensorClient.Proofs.Sample.FixedRecords
import SensorClient.Session.Operation

/-!
# Sessions just opened

A session is opened on a connection at hand or on one that the daemon gives at its path. Nothing
has been asked on the bus before that, and the session begins stopped and with nothing in
particular wanted, whether it got its connection or not.

## Main definitions

* `Opened offered s`: the session `s` was just opened, with `offered` as its connection if there
  was one

## Main results

* `Opened.fresh`: how a session begins
* `Link.handshake_ok`: an acknowledgement is all that a successful handshake takes
* `Opened.held`: a session that is connected holds the connection it was offered
-/

namespace SensorClient

open Session

variable {σ : Type}

/-- The session was just opened, on a bus that nobody had asked anything. What it was offered as
its connection is one at hand, or what the daemon gave at its path. -/
inductive Opened : Option Link → Session σ → Prop
  | overLink (path : String) (bus : Bus) (config : SocketConfig) (link : Link) (decoder : Decoder σ)
      (sink : σ) (id : Int32) (process : Int64) :
      Opened (some link) (overLink path (.begin bus) config link decoder sink id process)
  | overPath (path : String) (bus : Bus) (config : SocketConfig)
      (listening : String → Except SystemError Link) (decoder : Decoder σ) (sink : σ) (id : Int32)
      (process : Int64) :
      Opened (reach listening config.path).toOption
        (overPath path (.begin bus) config listening decoder sink id process)

/-! ## How a session begins -/

/-- A session begins the same whether it got its connection or not, but for the local error. -/
theorem Session.assemble_eq (endpoint : Endpoint) (talk : Conversation) (connected : Bool)
    (reader : Reader) (decoder : Decoder σ) (sink : σ) (id : Int32) (process : Int64) :
    assemble endpoint talk connected reader decoder sink id process =
      { endpoint, talk, reader, decoder, sink, id, process, desired := .initial
        error := if connected then .clear else ⟨.clientSocketError, "Socket connection failed."⟩
        running := false, released := false, listeners := 0, notices := [] } := by
  cases connected <;> rfl

theorem Reader.adopt_subscribed (r : Reader) (id : Int32) (link : Link) :
    (r.adopt id link).2.subscribed = r.subscribed := by
  unfold adopt
  split <;> rfl

theorem Reader.connect_subscribed (r : Reader) (id : Int32)
    (listening : String → Except SystemError Link) :
    (r.connect id listening).2.subscribed = r.subscribed := by
  unfold connect
  split
  · rfl
  · exact adopt_subscribed ..

/-- A session at its beginning: nothing was asked, is wanted, runs or listens. -/
structure Session.Fresh (s : Session σ) : Prop where
  log : s.talk.log = []
  desired : s.desired = .initial
  running : s.running = false
  subscribed : s.reader.subscribed = false
  released : s.released = false
  listeners : s.listeners = 0
  notices : s.notices = []

/-- Every session begins so, whether it got its connection or not. -/
theorem Opened.fresh {offered : Option Link} {s : Session σ} (opened : Opened offered s) :
    s.Fresh := by
  cases opened with
  | overLink path bus config link decoder sink id process =>
    simp only [Session.overLink, assemble_eq]
    exact ⟨rfl, rfl, rfl, Reader.adopt_subscribed _ id link, rfl, rfl, rfl⟩
  | overPath path bus config listening decoder sink id process =>
    simp only [Session.overPath, assemble_eq]
    exact ⟨rfl, rfl, rfl, Reader.connect_subscribed _ id listening, rfl, rfl, rfl⟩

/-! ## The connection of a session -/

theorem Link.setReadTimeout_ok {link after : Link} {limit : Option Duration}
    (ok : link.setReadTimeout limit = .ok after) :
    link.broken = false ∧ after = { link with readTimeout := limit } := by
  unfold setReadTimeout at ok
  repeat' split at ok
  all_goals simp_all

theorem Link.write_ok {link after : Link} {bytes : Bytes} {count : Nat}
    (ok : link.write bytes = (.ok count, after)) :
    after = { link with outbound := link.outbound ++ bytes } := by
  unfold write at ok
  repeat' split at ok
  all_goals simp_all

theorem Link.readExact_one_ok {link after : Link} {bytes : Bytes} (sound : link.broken = false)
    (ok : link.readExact 1 = (.ok bytes, after)) :
    link.inbound ≠ [] ∧ after = { link with inbound := link.inbound.drop 1 } := by
  rcases Nat.lt_or_ge link.inbound.length 1 with short | enough
  · obtain ⟨fault, failed⟩ := readExact_of_lt sound short
    simp [failed] at ok
  · rw [readExact_of_le sound enough] at ok
    exact ⟨List.ne_nil_of_length_pos enough, (Prod.mk.inj ok).2.symm⟩

/-- A successful handshake takes one byte, the acknowledgement, and leaves the bytes after it. -/
theorem Link.handshake_ok {link after : Link} {config : SocketConfig} {id : Int32}
    (ok : link.handshake config id = (.ok (), after)) :
    link.inbound ≠ [] ∧ link.broken = false ∧
      after = { link with
        inbound := link.inbound.drop 1, outbound := link.outbound ++ Bytes.ofInt32 id
        readTimeout := config.readTimeout, writeTimeout := none } := by
  unfold handshake at ok
  split at ok
  · simp at ok
  -- Each step of the handshake has worked, and says what it did to the connection.
  next limited limit =>
  obtain ⟨sound, rfl⟩ := setReadTimeout_ok limit
  dsimp only at ok
  split at ok
  · simp at ok
  next written wrote =>
  cases write_ok wrote
  split at ok
  · simp at ok
  next acknowledged acknowledgement =>
  obtain ⟨answered, rfl⟩ := readExact_one_ok (by exact sound) acknowledgement
  split at ok
  · simp at ok
  next unlimited limit =>
  obtain ⟨-, rfl⟩ := setReadTimeout_ok limit
  exact ⟨answered, sound, (Prod.mk.inj ok).2.symm⟩

/-- A reader without a connection that has got this one after a handshake. -/
theorem Reader.idle_adopt_held {config : SocketConfig} {id : Int32} {link : Link}
    (connected : ((idle config).adopt id link).2.isConnected = true) :
    link.inbound ≠ [] ∧ link.broken = false ∧
      ((idle config).adopt id link).2.link = some { link with
        inbound := link.inbound.drop 1, outbound := link.outbound ++ Bytes.ofInt32 id
        readTimeout := config.readTimeout, writeTimeout := none } ∧
      ((idle config).adopt id link).2.config = config := by
  unfold adopt at *
  split at connected
  · next after ok =>
    obtain ⟨answered, sound, rfl⟩ := Link.handshake_ok ok
    exact ⟨answered, sound, rfl, rfl⟩
  · simp [idle, isConnected] at connected

theorem listening_of_reach {listening : String → Except SystemError Link} {path : String}
    {link : Link} (reached : reach listening path = .ok link) : listening path = .ok link := by
  unfold reach at reached
  split at reached
  · cases reached
  · split at reached <;> simp_all

theorem Reader.idle_connect_of_ok {config : SocketConfig} {link : Link}
    {listening : String → Except SystemError Link}
    (reached : reach listening config.path = .ok link) (id : Int32) :
    (idle config).connect id listening = (idle config).adopt id link := by
  simp only [connect, show (idle config).config.path = config.path from rfl, reached]

theorem Reader.idle_connect_of_error {config : SocketConfig} {e : SocketError}
    {listening : String → Except SystemError Link}
    (failed : reach listening config.path = .error e) (id : Int32) :
    (idle config).connect id listening = (.error e, idle config) := by
  simp only [connect, show (idle config).config.path = config.path from rfl, failed]

/-- A reader without a connection that has got one at the path it is configured to. -/
theorem Reader.idle_connect_held {config : SocketConfig} {id : Int32}
    {listening : String → Except SystemError Link}
    (connected : ((idle config).connect id listening).2.isConnected = true) :
    ∃ link, link.inbound ≠ [] ∧ link.broken = false ∧
      ((idle config).connect id listening).2.link = some { link with
        inbound := link.inbound.drop 1, outbound := link.outbound ++ Bytes.ofInt32 id
        readTimeout := config.readTimeout, writeTimeout := none } ∧
      ((idle config).connect id listening).2.config = config ∧
      reach listening config.path = .ok link := by
  cases reached : reach listening config.path with
  | error e =>
    rw [idle_connect_of_error reached id] at connected
    cases connected
  | ok link =>
    rw [idle_connect_of_ok reached id] at connected ⊢
    obtain ⟨answered, sound, held, configured⟩ := idle_adopt_held connected
    exact ⟨link, answered, sound, held, configured, rfl⟩

/-- A session that is connected holds the connection it was offered: the acknowledgement has been
taken off it, the number of the session put on it, and reads are limited as configured. -/
theorem Opened.held {offered : Option Link} {s : Session σ} (opened : Opened offered s)
    (connected : s.isConnected = true) :
    ∃ link, offered = some link ∧ link.inbound ≠ [] ∧ link.broken = false ∧
      s.reader.link = some { link with
        inbound := link.inbound.drop 1, outbound := link.outbound ++ Bytes.ofInt32 s.id
        readTimeout := s.reader.config.readTimeout, writeTimeout := none } := by
  cases opened with
  | overLink path bus config link decoder sink id process =>
    simp only [Session.overLink, assemble_eq, Session.isConnected] at connected ⊢
    obtain ⟨answered, sound, held, configured⟩ := Reader.idle_adopt_held connected
    exact ⟨link, rfl, answered, sound, by rw [configured, held]⟩
  | overPath path bus config listening decoder sink id process =>
    simp only [Session.overPath, assemble_eq, Session.isConnected] at connected ⊢
    obtain ⟨link, answered, sound, held, configured, reached⟩ := Reader.idle_connect_held connected
    exact ⟨link, by rw [reached]; rfl, answered, sound, by rw [configured, held]⟩

/-! ## Sessions that were acknowledged -/

/-- A session whose daemon has acknowledged it and sent nothing else, and which keeps records of
one size. Nothing answers it on the bus. -/
def Session.acknowledged (size : Nat) : Session (List Bytes) :=
  overLink "/SensorManager/accelerometersensor" (.begin (.unreachable "no daemon"))
    { SocketConfig.initial with readTimeout := some (.ofSeconds 1) } (.fresh 0 [6])
    (.recording "local.AccelerometerSensor" size) [] 7 4242

theorem opened_acknowledged (size : Nat) :
    Opened (some (.fresh 0 [6])) (Session.acknowledged size) :=
  .overLink ..

/-- A session whose daemon has acknowledged it and sent nothing else, and which keeps records of one
size and does not limit its reads. -/
def Session.unhurried (size : Nat) : Session (List Bytes) :=
  overLink "/SensorManager/accelerometersensor" (.begin (.unreachable "no daemon"))
    SocketConfig.initial (.fresh 0 [6]) (.recording "local.AccelerometerSensor" size) [] 7 4242

theorem opened_unhurried (size : Nat) : Opened (some (.fresh 0 [6])) (Session.unhurried size) :=
  .overLink ..

end SensorClient
