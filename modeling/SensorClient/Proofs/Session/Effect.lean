import SensorClient.Proofs.Sample.Reading
import SensorClient.Proofs.Session.Requests

/-!
# The effect of an operation

An operation changes the wanted configuration, the flags and the subscription in a way that does
not depend on what is answered on the bus or found on the sample connection. What an operation can
do is said here once; whatever holds of every run of a session is derived from it.

## Main definitions

* `Op.wanted`, `Op.running`, `Op.released`: the configuration and the flags after an operation
* `Op.reads`: the operations that take bytes off the connection
* `Session.Effect`: what an operation does to all but the requests and the local error
* `Session.trail`: what the events of a run leave behind

## Main results

* `perform_effect`: every operation has its effect
* `run_induction`: what every event keeps, every run keeps
-/

namespace SensorClient

namespace Op

/-- The configuration wanted after an operation. -/
def wanted (before : Desired) : Op → Desired
  | .setInterval value => { before with interval := value }
  | .setBufferInterval value => { before with bufferInterval := value }
  | .setBufferSize value => { before with bufferSize := value }
  | .setStandbyOverride value => { before with standbyOverride := value }
  | _ => before

/-- Whether a session runs after an operation. -/
def running (before : Bool) : Op → Bool
  | .start | .startWith _ => true
  | .stop | .stopWith _ => false
  | _ => before

/-- Whether a session has been released after an operation. -/
def released (before : Bool) : Op → Bool
  | .release => true
  | _ => before

/-- The operations that take bytes off the connection. -/
def reads : Op → Bool
  | .read _ | .dataReceived | .processEvents _ => true
  | _ => false

end Op

namespace Session

variable {σ : Type}

/-- What an operation does to a session, its requests and the local error aside. The subscription
changes only together with the running flag, and the samples only where bytes are taken. -/
structure Effect (op : Op) (s s' : Session σ) : Prop where
  endpoint : s'.endpoint = s.endpoint
  decoder : s'.decoder = s.decoder
  id : s'.id = s.id
  process : s'.process = s.process
  desired : s'.desired = op.wanted s.desired
  running : s'.running = op.running s.running
  released : s'.released = op.released s.released
  reader : s'.reader.bare =
    { s.reader.bare with
      subscribed := if s'.running = s.running then s.reader.subscribed else s'.running }
  samples : op.reads = false → s'.sink = s.sink ∧ s'.reader.link = s.reader.link

/-- Waiting for samples changes what is there, what was made of it and the local error. -/
theorem processEvents_snd (s : Session σ) (limit : Option Duration) :
    ∃ reader sink error notices, reader.bare = s.reader.bare ∧
      (s.processEvents limit).2 = { s with reader, sink, error, notices } := by
  unfold processEvents
  split
  · exact ⟨s.reader, s.sink, s.error, s.notices, rfl, rfl⟩
  · have kept := s.reader.bare_await limit
    split
    · next found => exact ⟨_, s.sink, s.error, s.notices, by simpa [found] using kept, rfl⟩
    · next reader found =>
      rw [found] at kept
      exact ⟨_, _, s.error, s.notices, (s.decoder.bare_drain s.sink reader).trans kept, rfl⟩
    · next found => exact ⟨_, s.sink, _, _, by simpa [found] using kept, rfl⟩
    · next found => exact ⟨_, s.sink, _, _, by simpa [found] using kept, rfl⟩

/-- What keeps the running flag and all of the reader but the bytes. -/
theorem Effect.of_kept {op : Op} {s : Session σ} {talk : Conversation} {reader : Reader} {sink : σ}
    {desired : Desired} {error : ErrorState} {released : Bool} {listeners : Nat}
    {notices : List Notice} (wanted : desired = op.wanted s.desired)
    (running : op.running s.running = s.running) (handed : released = op.released s.released)
    (held : reader.bare = s.reader.bare)
    (samples : op.reads = false → sink = s.sink ∧ reader.link = s.reader.link) :
    Effect op s
      { s with talk, reader, sink, desired, error, released, listeners, notices } where
  endpoint := rfl
  decoder := rfl
  id := rfl
  process := rfl
  desired := wanted
  running := running.symm
  released := handed
  reader := by rw [if_pos rfl]; exact held
  samples := samples

/-- What leaves the samples alone as well. -/
theorem Effect.of_unread {op : Op} {s : Session σ} {talk : Conversation} {desired : Desired}
    {error : ErrorState} {released : Bool} {listeners : Nat} {notices : List Notice}
    (wanted : desired = op.wanted s.desired) (running : op.running s.running = s.running)
    (handed : released = op.released s.released) :
    Effect op s { s with talk, desired, error, released, listeners, notices } :=
  .of_kept wanted running handed rfl fun _ => ⟨rfl, rfl⟩

theorem effect_startWith {op : Op} (s : Session σ) (id : Int32)
    (kept : op.wanted s.desired = s.desired ∧ op.released s.released = s.released)
    (starts : op.running s.running = true) : Effect op s (s.startWith id).2 := by
  cases running : s.running with
  | true =>
    rw [startWith_of_running s id running]
    exact .of_unread kept.1.symm (starts.trans running.symm) kept.2.symm
  | false =>
    rw [startWith_snd s id running]
    exact ⟨rfl, rfl, rfl, rfl, kept.1.symm, starts.symm, kept.2.symm, by
      simp [running, Reader.bare, Reader.subscribe], fun _ => ⟨rfl, rfl⟩⟩

theorem effect_stopWith {op : Op} (s : Session σ) (id : Int32)
    (kept : op.wanted s.desired = s.desired ∧ op.released s.released = s.released)
    (stops : op.running s.running = false) : Effect op s (s.stopWith id).2 := by
  cases running : s.running with
  | false =>
    rw [stopWith_of_stopped s id running]
    exact .of_unread kept.1.symm (stops.trans running.symm) kept.2.symm
  | true =>
    rw [stopWith_snd s id running]
    exact ⟨rfl, rfl, rfl, rfl, kept.1.symm, stops.symm, kept.2.symm, by
      simp [running, Reader.bare, Reader.unsubscribe], fun _ => ⟨rfl, rfl⟩⟩

/-- Every operation has its effect, whatever is answered on the bus and found on the sample
connection. -/
theorem perform_effect (s : Session σ) (op : Op) : Effect op s (s.perform op).2 := by
  cases op with
  -- Starts and stops are the only operations that change the running flag and the subscription.
  | start => exact s.effect_startWith s.id ⟨rfl, rfl⟩ rfl
  | startWith id => exact s.effect_startWith id ⟨rfl, rfl⟩ rfl
  | stop => exact s.effect_stopWith s.id ⟨rfl, rfl⟩ rfl
  | stopWith id => exact s.effect_stopWith id ⟨rfl, rfl⟩ rfl
  | release =>
    change Effect _ s s.release.2
    unfold Session.release
    split
    · next released => exact .of_unread rfl rfl released
    · exact .of_unread rfl rfl rfl
  | setInterval value =>
    change Effect _ s (s.setInterval value)
    unfold Session.setInterval
    dsimp only
    split <;> exact .of_unread rfl rfl rfl
  | setBufferInterval value =>
    change Effect _ s (s.setBufferInterval value)
    unfold Session.setBufferInterval
    dsimp only
    split <;> exact .of_unread rfl rfl rfl
  | setBufferSize value =>
    change Effect _ s (s.setBufferSize value)
    unfold Session.setBufferSize
    dsimp only
    split <;> exact .of_unread rfl rfl rfl
  | interval | bufferInterval | bufferSize | standbyOverride =>
    change Effect _ s (s.effective _ _ _).2
    unfold effective
    split <;> exact .of_unread rfl rfl rfl
  | setDataRangeIndex index =>
    change Effect _ s (s.setDataRangeIndex index).2
    rw [setDataRangeIndex_snd]
    exact .of_unread rfl rfl rfl
  | errorCode =>
    change Effect _ s s.errorCode.2
    unfold Session.errorCode
    split <;> exact .of_unread rfl rfl rfl
  | errorString =>
    change Effect _ s s.errorString.2
    unfold Session.errorString
    split <;> exact .of_unread rfl rfl rfl
  -- These take bytes, so of the reader only what is bare is kept.
  | read buffer => exact .of_kept rfl rfl rfl (s.reader.bare_read buffer) nofun
  | dataReceived => exact .of_kept rfl rfl rfl (s.decoder.bare_drain s.sink s.reader) nofun
  | processEvents limit =>
    obtain ⟨reader, sink, error, notices, held, done⟩ := s.processEvents_snd limit
    change Effect _ s (s.processEvents limit).2
    rw [done]
    exact .of_kept rfl rfl rfl held nofun
  -- Every other operation changes at most the local error, the listeners and the conversation.
  | _ => exact .of_unread rfl rfl rfl

theorem Effect.isConnected {op : Op} {s s' : Session σ} (effect : Effect op s s') :
    s'.isConnected = s.isConnected := by
  have held := congrArg Reader.isConnected effect.reader
  rw [Reader.isConnected_bare] at held
  exact held.trans s.reader.isConnected_bare

theorem Effect.subscribed {op : Op} {s s' : Session σ} (effect : Effect op s s') :
    s'.reader.subscribed =
      if s'.running = s.running then s.reader.subscribed else s'.running := by
  have held := congrArg Reader.subscribed effect.reader
  rwa [Reader.subscribed_bare] at held

/-! ## What an event does -/

theorem decoder_step (s : Session σ) (e : Event) : (s.step e).decoder = s.decoder := by
  cases e with
  | op op => exact (s.perform_effect op).decoder
  | _ => rfl

theorem id_step (s : Session σ) (e : Event) : (s.step e).id = s.id := by
  cases e with
  | op op => exact (s.perform_effect op).id
  | _ => rfl

/-- Nothing gains or loses the connection of a session. -/
theorem isConnected_step (s : Session σ) (e : Event) :
    (s.step e).isConnected = s.isConnected := by
  cases e with
  | op op => exact (s.perform_effect op).isConnected
  | _ => exact Reader.isConnected_onLink _ _

end Session

/-! ## What holds of every run -/

/-- What every event of a sort keeps is kept by every run of such events. -/
theorem Session.run_induction {σ : Type} {A : Event → Prop} {P : Session σ → Prop}
    (kept : ∀ s e, A e → P s → P (s.step e)) {s : Session σ} {events : List Event}
    (all : ∀ e ∈ events, A e) (begins : P s) : P (s.run events) := by
  induction events generalizing s with
  | nil => exact begins
  | cons e events ih =>
    rw [List.forall_mem_cons] at all
    exact ih all.2 (kept s e all.1 begins)

/-- What the events of a run leave behind, each in the state that it finds. -/
def Session.trail {σ α : Type} (left : Session σ → Event → List α) (s : Session σ) :
    List Event → List α
  | [] => []
  | e :: events => left s e ++ (s.step e).trail left events

theorem Session.trail_snoc {σ α : Type} (left : Session σ → Event → List α) (s : Session σ)
    (events : List Event) (e : Event) :
    s.trail left (events ++ [e]) = s.trail left events ++ left (s.run events) e := by
  induction events generalizing s with
  | nil => exact List.append_nil _
  | cons first events ih =>
    rw [List.cons_append, trail, ih, trail, List.append_assoc]
    rfl

end SensorClient
