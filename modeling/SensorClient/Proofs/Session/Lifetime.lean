import SensorClient.Proofs.Session.Lifecycle
import SensorClient.Proofs.Session.Replies

/-!
# The lifetime of a session

In its lifetime a session sees operations and the doings of the daemon, and in between the channel
comes within reach of the bus and goes out of it. However that is mixed, the manager hears of the
session at most once, and the connection is closed at the very end and not before.

## Main definitions

* `Moment`, `Session.live`: what a session sees in its lifetime, and the session after it
* `Session.handBackAfter`, `Session.takenAfter`: how a session is handed back, and what is answered
* `Session.HandedBackOnce`: what is asked of the manager if the session is handed back
* `Session.parting`: a session right before its close lets go of the connection

## Main results

* `party_requests`: no operation but a release asks anything of the manager
* `LivesOn.undergo`: every moment keeps what holds of a session in its lifetime
* `Opened.released_once`: a session is released once and closed once
-/

namespace SensorClient

/-- What a session sees in its lifetime. -/
inductive Moment where
  | event (e : Event)
  /-- Parties come within reach of the bus and go out of it. -/
  | reach (isValid : Party → Bool)

/-- Which connection is held and whether the client's end of it is open, and the closed ones. -/
def Reader.holding (r : Reader) : Option (Nat × Bool) × List Link :=
  (r.link.map fun link => (link.serial, link.clientOpen), r.closed)

namespace Session

variable {σ : Type}

/-- The session after a moment. -/
def undergo (s : Session σ) : Moment → Session σ
  | .event e => s.step e
  | .reach isValid => s.withTalk { s.talk with bus := { s.talk.bus with isValid } }

/-- The session after some time. -/
def live (s : Session σ) (moments : List Moment) : Session σ := moments.foldl undergo s

@[simp] theorem live_snoc (s : Session σ) (moments : List Moment) (moment : Moment) :
    s.live (moments ++ [moment]) = (s.live moments).undergo moment := by
  simp [live]

/-! ## How a session is handed back -/

/-- The name of the sensor, if it is asked for after these requests; empty if there is none. -/
def nameAfter (s : Session σ) (asked : List Request) : String :=
  Reply.valueOrDefault ((s.talk.bus.answer asked (.property "id")).bind (Kind.str.replyTo "id"))

/-- The requests that hand a session back after these: the name is read, and told to the manager. -/
def handBackAfter (s : Session σ) (asked : List Request) : List Request :=
  [.property "id", .handBack (s.nameAfter asked) s.id s.process]

/-- Whether the manager takes a session back after these requests. -/
def takenAfter (s : Session σ) (asked : List Request) : Bool :=
  Reply.valueOrDefault
    ((s.talk.bus.answer (asked ++ [.property "id"])
      (.handBack (s.nameAfter asked) s.id s.process)).bind (Kind.bool.replyTo "releaseSensor"))

/-- A session is handed back once among these requests, by the name that was read right before, and
nothing else is asked of the manager. -/
def HandedBackOnce (s : Session σ) (log : List Request) : Prop :=
  ∃ before after, log = before ++ s.handBackAfter before ++ after ∧
    (∀ request ∈ before, request.party = .channel) ∧ ∀ request ∈ after, request.party = .channel

theorem release_of_held {s : Session σ} (held : s.released = false) :
    s.release = (s.takenAfter s.talk.log, { s with
      released := true, talk := s.talk.after (s.handBackAfter s.talk.log) }) := by
  refine Prod.ext ?_ (s.release_snd held)
  simp [release, held]
  rfl

theorem released_release (s : Session σ) : s.release.2.released = true := by
  cases released : s.released with
  | true => rw [s.release_of_released released, released]
  | false => rw [release_of_held released]

/-- No operation but a release asks anything of the manager. -/
theorem party_requests (s : Session σ) {op : Op} (other : op ≠ .release) :
    ∀ request ∈ s.requests op, request.party = .channel := by
  cases op with
  | release => exact absurd rfl other
  | setDataRangeIndex index =>
    dsimp only [requests, selectRequests]
    split <;> simp [Request.call]
  | start | startWith =>
    dsimp only [requests, Request.start]
    cases s.running <;> cases s.desired.standbyOverride <;>
      simp [Request.call, Request.setStandbyOverride, Request.setInterval,
        Request.setBufferInterval, Request.setBufferSize]
  | stop | stopWith | setInterval | setBufferInterval | setBufferSize | interval | bufferInterval
  | bufferSize | standbyOverride =>
    dsimp only [requests, Request.stop]
    cases s.running <;>
      simp [Request.call, Request.property, Request.setStandbyOverride, Request.setInterval,
        Request.setBufferInterval, Request.setBufferSize]
  | errorCode | errorString =>
    dsimp only [requests]
    cases s.error.isSet <;> simp [Request.property]
  | _ => simp [requests, Request.call, Request.property, Request.setInterval,
      Request.setBufferInterval, Request.setBufferSize, Request.setStandbyOverride]

/-! ## What every moment keeps -/

/-- No event changes which connection is held, closes the client's end of it or lets go of it. -/
theorem holding_step (s : Session σ) (e : Event) :
    (s.step e).reader.holding = s.reader.holding := by
  cases e with
  | op op =>
    -- An operation leaves all of the reader alone but its bytes, on which this does not depend.
    have held := congrArg Reader.holding (s.perform_effect op).reader
    simpa [step, Reader.holding, Reader.bare, Link.bare, Function.comp_def] using held
  | feed bytes =>
    have held := congrArg Reader.holding (s.reader.bare_feed bytes)
    simpa [step, onLink, Reader.holding, Reader.bare, Link.bare, Function.comp_def] using held
  | shutdown | hangUp | breakDescriptor =>
    simp [step, onLink, Reader.onLink, Reader.holding, Function.comp_def, Link.shutdown,
      Link.hangUp, Link.breakDescriptor]

/-- The session `t` is what became of the session `s` in its lifetime so far. -/
structure LivesOn (s t : Session σ) : Prop where
  id : t.id = s.id
  process : t.process = s.process
  answer : t.talk.bus.answer = s.talk.bus.answer
  holding : t.reader.holding = s.reader.holding
  kept : t.released = false → ∀ request ∈ t.talk.log, request.party = .channel
  handed : t.released = true → s.HandedBackOnce t.talk.log

section

variable {s t : Session σ}

theorem LivesOn.handBackAfter (lives : s.LivesOn t) : t.handBackAfter = s.handBackAfter := by
  funext asked
  simp only [Session.handBackAfter, nameAfter, lives.id, lives.process, lives.answer]

theorem LivesOn.takenAfter (lives : s.LivesOn t) : t.takenAfter = s.takenAfter := by
  funext asked
  simp only [Session.takenAfter, nameAfter, lives.id, lives.process, lives.answer]

/-- What is asked of the channel alone neither hands a session back nor undoes it. -/
theorem LivesOn.of_channel (lives : s.LivesOn t) {u : Session σ} {asked : List Request}
    (id : u.id = t.id) (process : u.process = t.process)
    (talk : u.talk = t.talk.after asked) (holding : u.reader.holding = t.reader.holding)
    (released : u.released = t.released) (channel : ∀ request ∈ asked, request.party = .channel) :
    s.LivesOn u where
  id := id.trans lives.id
  process := process.trans lives.process
  answer := by rw [talk]; exact lives.answer
  holding := holding.trans lives.holding
  kept held := by
    rw [talk, Conversation.log_after, List.forall_mem_append]
    exact ⟨lives.kept (released ▸ held), channel⟩
  handed gone := by
    obtain ⟨before, after, log, early, late⟩ := lives.handed (released ▸ gone)
    refine ⟨before, after ++ asked, ?_, early, List.forall_mem_append.mpr ⟨late, channel⟩⟩
    rw [talk, Conversation.log_after, log, List.append_assoc]

/-- The first release is the one that hands a session back. -/
theorem LivesOn.release (lives : s.LivesOn t) : s.LivesOn t.release.2 := by
  cases released : t.released with
  | true =>
    rw [t.release_of_released released]
    exact lives
  | false =>
    rw [release_of_held released, lives.handBackAfter]
    refine ⟨lives.id, lives.process, lives.answer, lives.holding, nofun, fun _ => ?_⟩
    exact ⟨t.talk.log, [], by simp, lives.kept released, List.forall_mem_nil _⟩

/-- Every moment keeps what holds of a session in its lifetime. -/
theorem LivesOn.undergo (lives : s.LivesOn t) (moment : Moment) :
    s.LivesOn (t.undergo moment) := by
  cases moment with
  | reach isValid =>
    exact ⟨lives.id, lives.process, lives.answer, lives.holding, lives.kept, lives.handed⟩
  | event e =>
    -- A release is the one event that asks anything of the manager.
    by_cases release : e = .op .release
    · rw [release]
      exact lives.release
    · have asked : ∀ request ∈ t.requestsOn e, request.party = .channel := by
        cases e with
        | op op => exact t.party_requests fun same => release (congrArg Event.op same)
        | _ => exact List.forall_mem_nil _
      refine lives.of_channel (t.id_step e) ?_ (t.talk_step e) (t.holding_step e) ?_ asked
      · cases e with
        | op op => exact (t.perform_effect op).process
        | _ => rfl
      · exact (t.released_step e).trans (by simp [release])

theorem LivesOn.live (lives : s.LivesOn t) (moments : List Moment) :
    s.LivesOn (t.live moments) := by
  induction moments generalizing t with
  | nil => exact lives
  | cons moment moments ih => exact ih (lives.undergo moment)

end

/-- A session has been released after some time exactly if there was a release. -/
theorem released_live (s : Session σ) (moments : List Moment) :
    (s.live moments).released = true ↔ s.released = true ∨ .event (.op .release) ∈ moments := by
  induction moments using List.reverseRecOn with
  | nil => simp [live]
  | append_singleton moments moment ih =>
    rw [live_snoc, List.mem_append, List.mem_singleton, ← or_assoc, ← ih]
    cases moment with
    | event e => simp [undergo, released_step, eq_comm (a := e)]
    | reach isValid => simp [undergo, withTalk]

/-! ## The close -/

/-- A session that is being closed, right before it lets go of the connection. -/
def parting (s : Session σ) : Session σ := if s.isValid then s.release.2 else s

theorem close_eq (s : Session σ) :
    s.close.talk = s.parting.talk ∧ s.close.reader = s.parting.reader.dropConnection.2 := by
  unfold close parting
  dsimp only
  repeat' split
  all_goals exact ⟨rfl, rfl⟩

theorem reader_parting (s : Session σ) : s.parting.reader = s.reader := by
  unfold parting release
  repeat' split
  all_goals rfl

/-- How the manager hears of a session `s` of which `t` has become in its lifetime, if `gone` says
whether there was a release. -/
structure ReleasedOnce (s t : Session σ) (gone : Prop) : Prop where
  /-- With a release, or with the channel within reach at the end, it is handed back once. -/
  handed : gone ∨ t.isValid = true → s.HandedBackOnce t.close.talk.log
  /-- Otherwise the manager hears nothing at all. -/
  kept : ¬ gone → t.isValid = false → t.close.talk.requestsTo .manager = []
  /-- The first release says what the manager says. -/
  first : ¬ gone → t.release.1 = s.takenAfter t.talk.log ∧
    t.release.2.talk.log = t.talk.log ++ s.handBackAfter t.talk.log
  /-- Any other says that all is well, and does nothing. -/
  again : gone → t.release = (true, t)

/-- How a session closes the connection that it was offered, if it has got it. -/
structure ClosedOnce (t : Session σ) (link : Link) : Prop where
  /-- It holds that connection, as open as it was offered, and only the close closes it. -/
  held : ∃ held, t.reader.link = some held ∧ held.serial = link.serial ∧
    held.clientOpen = link.clientOpen ∧ t.reader.closed = [] ∧
    t.close.reader.closed = [held.close.2]
  /-- The connection is let go of after the release, which leaves it alone. -/
  last : t.parting.reader = t.reader ∧ t.parting.talk = t.close.talk ∧
    t.close.reader = t.parting.reader.dropConnection.2
  /-- Then it is no longer held, and to let go of it once more does nothing. -/
  gone : t.close.reader.link = none ∧ t.close.reader.dropConnection.2 = t.close.reader

section

variable {s t : Session σ}

theorem LivesOn.releasedOnce (lives : s.LivesOn t) : s.ReleasedOnce t (t.released = true) where
  handed reasons := by
    rw [t.close_eq.1, parting]
    split
    · exact lives.release.handed t.released_release
    · next invalid => exact lives.handed (reasons.resolve_right invalid)
  kept held invalid := by
    rw [t.close_eq.1, parting, if_neg (by simp [invalid]), Conversation.requestsTo,
      List.filterMap_eq_nil_iff]
    intro request asked
    simp [lives.kept (by simpa using held) request asked]
  first held := by
    rw [release_of_held (by simpa using held), lives.takenAfter, lives.handBackAfter]
    exact ⟨rfl, rfl⟩
  again released := t.release_of_released released

/-- What the close lets go of is what was held all the time. -/
theorem LivesOn.closed_close (lives : s.LivesOn t) {held : Link}
    (found : s.reader.link = some held) :
    ∃ held', t.reader.link = some held' ∧ held'.serial = held.serial ∧
      held'.clientOpen = held.clientOpen ∧ t.reader.closed = s.reader.closed ∧
      t.close.reader.closed = s.reader.closed ++ [held'.close.2] := by
  obtain ⟨link, closed⟩ := Prod.mk.inj lives.holding
  rw [found, Option.map_some, Option.map_eq_some_iff] at link
  obtain ⟨held', found', same⟩ := link
  refine ⟨held', found', congrArg Prod.fst same, congrArg Prod.snd same, closed, ?_⟩
  rw [t.close_eq.2, t.reader_parting, Reader.dropConnection, Reader.closedWithHeld, found', closed]
  rfl

end

end Session

/-- A reader that has got its first connection has closed none. -/
theorem Reader.idle_adopt_closed {config : SocketConfig} {id : Int32} {link : Link}
    (connected : ((idle config).adopt id link).2.isConnected = true) :
    ((idle config).adopt id link).2.closed = [] := by
  unfold adopt at *
  split at connected
  · rfl
  · simp [idle, isConnected] at connected

namespace Opened

open Session

variable {σ : Type} {offered : Option Link} {s : Session σ}

theorem livesOn (opened : Opened offered s) : s.LivesOn s where
  id := rfl
  process := rfl
  answer := rfl
  holding := rfl
  kept _ := by simp [opened.fresh.log]
  handed released := by simp [opened.fresh.released] at released

/-- A session that has got its connection has closed none. -/
theorem closed (opened : Opened offered s) (connected : s.isConnected = true) :
    s.reader.closed = [] := by
  cases opened with
  | overLink path bus config link decoder sink id process =>
    simp only [Session.overLink, assemble_eq, Session.isConnected] at connected ⊢
    exact Reader.idle_adopt_closed connected
  | overPath path bus config listening decoder sink id process =>
    simp only [Session.overPath, assemble_eq, Session.isConnected] at connected ⊢
    cases reached : reach listening config.path with
    | error e => rw [Reader.idle_connect_of_error reached id, Reader.idle]
    | ok link =>
      rw [Reader.idle_connect_of_ok reached id] at connected ⊢
      exact Reader.idle_adopt_closed connected

/-- Whatever a session sees in its lifetime, if it is released at all, or if its channel is within
reach at the end, then it has been handed back once when it has been closed, and otherwise the
manager has heard nothing. A first release gives the manager's answer, and any other does nothing.
The connection that the session has got is held open all the time, and closed once, at the end,
after the release. Without a connection the close closes none. -/
theorem released_once (opened : Opened offered s) (moments : List Moment) :
    s.ReleasedOnce (s.live moments) (.event (.op .release) ∈ moments) ∧
      (∀ link, offered = some link → s.isConnected = true → (s.live moments).ClosedOnce link) ∧
      (s.isConnected = false → (s.live moments).close.reader.closed = s.reader.closed) := by
  have lives := opened.livesOn.live moments
  have gone : (s.live moments).released = true ↔ .event (.op .release) ∈ moments := by
    simp [s.released_live moments, opened.fresh.released]
  refine ⟨?_, ?_, ?_⟩
  · rw [← gone]
    exact lives.releasedOnce
  · intro link given connected
    obtain ⟨link', given', -, -, found⟩ := opened.held connected
    cases given.symm.trans given'
    have closed := lives.closed_close found
    rw [opened.closed connected] at closed
    constructor
    · exact closed
    · exact ⟨reader_parting _, (close_eq _).1.symm, (close_eq _).2⟩
    · rw [(close_eq _).2]
      simp [Reader.dropConnection, Reader.closedWithHeld]
  · intro unconnected
    have none : s.reader.link = none := by
      simpa [Session.isConnected, Reader.isConnected] using unconnected
    obtain ⟨link, closed⟩ := Prod.mk.inj lives.holding
    rw [none, Option.map_none, Option.map_eq_none_iff] at link
    rw [(close_eq _).2, reader_parting, Reader.dropConnection, Reader.closedWithHeld, link, closed]
    simp

/-- A session that comes within reach is handed back by its close, and only then is the connection
closed. -/
theorem released_once_in_reach :
    let s := Session.acknowledged 4
    let t := s.live [.event (.op .start), .reach fun _ => true]
    s.HandedBackOnce t.close.talk.log ∧ t.ClosedOnce (.fresh 0 [6]) := by
  obtain ⟨released, closed, -⟩ :=
    (opened_acknowledged 4).released_once [.event (.op .start), .reach fun _ => true]
  exact ⟨released.handed (.inr rfl), closed _ rfl rfl⟩

end Opened

end SensorClient
