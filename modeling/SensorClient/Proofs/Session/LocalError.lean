import Mathlib.Data.List.Induction
import SensorClient.Proofs.Session.Dispatch
import SensorClient.Proofs.Session.Effect
import SensorClient.Proofs.Session.Opening

/-!
# The error of a session

A session keeps one error of its own: that it got no connection, that it lost it, or whatever its
client says. It keeps it until an operation clears it, and hides the daemon's error as long. What an
event decides about the error, if anything, follows from the operation and from whether the session
runs, and for a dispatch from what was found on the connection; no reply has a part in it.

## Main definitions

* `Op.clears`: the operations that clear the error of a session
* `Session.failure?`, `Session.verdict`: the failure that an operation is, and what an event decides
* `Session.told`: what the listeners hear of an event
* `Session.Decides`: both, between one session and the next
* `Session.TellsOwn`, `Session.TellsDaemons`: the session tells its own error, or the daemon's

## Main results

* `decides_perform`, `decides_run`: what an operation, and a run, does to the error, and what the
  listeners hear of it
* `tellsOwn`, `tellsDaemons`: which side is told
* `Opened.error_after`: the error, what the listeners have heard, and what is told of the error
  after any run
-/

namespace SensorClient

namespace ErrorState

/-- The connection could not be opened. -/
def unconnected : ErrorState := ⟨.clientSocketError, "Socket connection failed."⟩

/-- The connection was lost. -/
def lost : ErrorState := ⟨.clientSocketError, "Socket connection lost."⟩

theorem isSet_iff (e : ErrorState) : e.isSet = true ↔ e.code ≠ .noError := by
  simp [isSet, SensorError.isError]

end ErrorState

/-- The operations that clear the error of a session, which runs or not. -/
def Op.clears (running : Bool) : Op → Bool
  | .start | .startWith _ => !running
  | .stop | .stopWith _ => running
  | .sendInterval _ _ | .sendBufferInterval _ _ => true
  | .sendBufferSize _ _ | .sendStandbyOverride _ _ => true
  | .setInterval _ => running
  | .setBufferInterval _ | .setBufferSize _ => !running
  | .setStandbyOverride _ => true
  | .currentDataRange | .requestDataRange _ | .removeDataRangeRequest => true
  | .setDataRangeIndex _ => true
  | .clearError => true
  | _ => false

namespace Session

variable {σ : Type} {s : Session σ}

/-- The failure that an operation is: what the client says, or the loss of the connection. -/
def failure? (s : Session σ) : Op → Option ErrorState
  | .setError code message => some ⟨code, message⟩
  | .processEvents limit =>
    if (s.processEvents limit).1 = .disconnected then some .lost else none
  | _ => none

/-- What an event decides about the error: that there is none, or that it is this failure, or
nothing at all. -/
def verdict (s : Session σ) : Event → List ErrorState
  | .op act => if act.clears s.running then [.clear] else (s.failure? act).toList
  | _ => []

/-- What the listeners hear of a failure, one after the other. -/
def announcement (s : Session σ) (failure : ErrorState) : List Notice :=
  (List.range s.listeners).map fun i => ⟨i, failure.code, failure.message⟩

/-- What the listeners hear of an event: its failure, if it is one. -/
def told (s : Session σ) : Event → List Notice
  | .op act => (s.failure? act).elim [] s.announcement
  | _ => []

/-! ## What an operation does to the error -/

/-- From one session to the next the error was decided on so, and the listeners have heard this. -/
structure Decides (s s' : Session σ) (decided : List ErrorState) (heard : List Notice) : Prop where
  error : s'.error = decided.getLast?.getD s.error
  notices : s'.notices = s.notices ++ heard

theorem Decides.nothing {s s' : Session σ} (error : s'.error = s.error)
    (notices : s'.notices = s.notices) : s.Decides s' [] [] :=
  ⟨error, notices.trans (List.append_nil _).symm⟩

theorem Decides.clear {s s' : Session σ} (error : s'.error = .clear)
    (notices : s'.notices = s.notices) : s.Decides s' [.clear] [] :=
  ⟨error, notices.trans (List.append_nil _).symm⟩

theorem Decides.failure (s : Session σ) (failure : ErrorState) :
    s.Decides (s.setError failure.code failure.message) [failure] (s.announcement failure) :=
  ⟨rfl, rfl⟩

theorem decides_startWith (s : Session σ) (id : Int32) :
    s.Decides (s.startWith id).2 (if !s.running then [.clear] else []) [] := by
  cases running : s.running with
  | true =>
    rw [startWith_of_running s id running]
    exact .nothing rfl rfl
  | false =>
    rw [startWith_snd s id running]
    exact .clear rfl rfl

theorem decides_stopWith (s : Session σ) (id : Int32) :
    s.Decides (s.stopWith id).2 (if s.running then [.clear] else []) [] := by
  cases running : s.running with
  | true =>
    rw [stopWith_snd s id running]
    exact .clear rfl rfl
  | false =>
    rw [stopWith_of_stopped s id running]
    exact .nothing rfl rfl

theorem decides_effective (s : Session σ) (k : Kind) (name : String) (wanted : k.Carrier) :
    s.Decides (s.effective k name wanted).2 [] [] := by
  unfold effective
  split <;> exact .nothing rfl rfl

/-- Waiting for samples records the loss of the connection, and leaves the error alone otherwise. -/
theorem decides_processEvents (s : Session σ) (limit : Option Duration) :
    s.Decides (s.processEvents limit).2 (s.failure? (.processEvents limit)).toList
      ((s.failure? (.processEvents limit)).elim [] s.announcement) := by
  unfold failure?
  dsimp only
  cases subscribed : s.reader.subscribed with
  | false =>
    rw [processEvents_of_unsubscribed subscribed]
    exact .nothing rfl rfl
  | true =>
    rcases found : s.reader.waitReadable with e | (_ | _ | _)
    · rw [processEvents_of_lost subscribed (.inr ⟨e, found⟩), if_pos rfl]
      exact .failure s .lost
    · have pending := s.reader.waitReadable_eq_readable_iff.mp found
      rw [processEvents_of_pending subscribed pending]
      exact .nothing rfl rfl
    · rw [processEvents_of_lost subscribed (.inl found), if_pos rfl]
      exact .failure s .lost
    · rw [processEvents_of_timeout subscribed found]
      exact .nothing rfl rfl

/-- What an operation decides about the error, and what the listeners hear of it. -/
theorem decides_perform (s : Session σ) (op : Op) :
    s.Decides (s.perform op).2 (s.verdict (.op op)) (s.told (.op op)) := by
  cases op with
  | start => exact s.decides_startWith s.id
  | startWith id => exact s.decides_startWith id
  | stop => exact s.decides_stopWith s.id
  | stopWith id => exact s.decides_stopWith id
  | setInterval value =>
    change s.Decides (s.setInterval value) (if s.running then [.clear] else []) []
    unfold Session.setInterval
    dsimp only
    split
    · exact .clear rfl rfl
    · exact .nothing rfl rfl
  | setBufferInterval value =>
    change s.Decides (s.setBufferInterval value) (if !s.running then [.clear] else []) []
    unfold Session.setBufferInterval
    cases running : s.running
    · exact .clear rfl rfl
    · exact .nothing rfl rfl
  | setBufferSize value =>
    change s.Decides (s.setBufferSize value) (if !s.running then [.clear] else []) []
    unfold Session.setBufferSize
    cases running : s.running
    · exact .clear rfl rfl
    · exact .nothing rfl rfl
  | interval | bufferInterval | bufferSize | standbyOverride => exact s.decides_effective _ _ _
  | setDataRangeIndex index =>
    change s.Decides (s.setDataRangeIndex index).2 _ _
    rw [setDataRangeIndex_snd]
    exact .clear rfl rfl
  | release =>
    change s.Decides s.release.2 _ _
    unfold Session.release
    split <;> exact .nothing rfl rfl
  | errorCode =>
    change s.Decides s.errorCode.2 _ _
    unfold Session.errorCode
    split <;> exact .nothing rfl rfl
  | errorString =>
    change s.Decides s.errorString.2 _ _
    unfold Session.errorString
    split <;> exact .nothing rfl rfl
  | processEvents limit => exact s.decides_processEvents limit
  | setError code message => exact .failure s ⟨code, message⟩
  | sendInterval _ _ | sendBufferInterval _ _ | sendBufferSize _ _ | sendStandbyOverride _ _
  | setStandbyOverride _ | currentDataRange | requestDataRange _ | removeDataRangeRequest
  | clearError => exact .clear rfl rfl
  | _ => exact .nothing rfl rfl

theorem decides_step (s : Session σ) (e : Event) :
    s.Decides (s.step e) (s.verdict e) (s.told e) := by
  cases e with
  | op op => exact s.decides_perform op
  | _ => exact .nothing rfl rfl

/-- The error after a run is what was last decided, and the listeners have heard every failure. -/
theorem decides_run (s : Session σ) (events : List Event) :
    s.Decides (s.run events) (s.trail verdict events) (s.trail told events) := by
  induction events using List.reverseRecOn with
  | nil => exact .nothing rfl rfl
  | append_singleton events e ih =>
    have last := (s.run events).decides_step e
    rw [run_snoc, trail_snoc, trail_snoc]
    constructor
    · rw [last.error, ih.error, List.getLast?_append, Option.getD_or]
    · rw [last.notices, ih.notices, List.append_assoc]

/-! ## What is told of the error -/

/-- The session tells its own error and asks nothing. -/
def TellsOwn (s : Session σ) : Prop :=
  s.errorCode = (s.error.code, s) ∧ s.errorString = (s.error.message, s)

/-- The session tells the daemon's error. It reads each part once, and tells none where there is
nothing to be read. -/
structure TellsDaemons (s : Session σ) : Prop where
  code : ∀ n, (s.property .int "errorCodeInt").1 = .ok n → s.errorCode.1.code = n
  unread : ∀ e, (s.property .int "errorCodeInt").1 = .error e → s.errorCode.1 = .noError
  text : ∀ m, (s.property .str "errorString").1 = .ok m → s.errorString.1 = m
  unreadText : ∀ e, (s.property .str "errorString").1 = .error e → s.errorString.1 = ""
  asked : s.errorCode.2 = { s with talk := s.talk.after [.property "errorCodeInt"] }
  askedText : s.errorString.2 = { s with talk := s.talk.after [.property "errorString"] }

theorem tellsOwn (set : s.error.code ≠ .noError) : s.TellsOwn := by
  have side := s.error.isSet_iff.mpr set
  constructor
  · rw [errorCode, if_pos side]
  · rw [errorString, if_pos side]

theorem tellsDaemons (unset : s.error.code = .noError) : s.TellsDaemons := by
  have side : ¬ s.error.isSet = true := fun set => s.error.isSet_iff.mp set unset
  have asked : s.errorCode =
      (Reply.valueOrDefault ((s.property .int "errorCodeInt").1.map SensorError.ofCode),
        (s.property .int "errorCodeInt").2) := by
    rw [errorCode, if_neg side]
  have askedText : s.errorString =
      ((Reply.valueOrDefault (s.property .str "errorString").1 : String),
        (s.property .str "errorString").2) := by
    rw [errorString, if_neg side]
  constructor
  · intro n read
    rw [asked, read]
    exact SensorError.code_ofCode n
  · intro e read
    rw [asked, read]
    rfl
  · intro m read
    rw [askedText, read]
    rfl
  · intro e read
    rw [askedText, read]
    rfl
  · rw [asked, property_snd]
  · rw [askedText, property_snd]

end Session

/-! ## Sessions just opened -/

theorem Reader.isOk_adopt (config : SocketConfig) (id : Int32) (link : Link) :
    ((idle config).adopt id link).1.isOk = ((idle config).adopt id link).2.isConnected := by
  unfold adopt
  split <;> rfl

theorem Reader.isOk_connect (config : SocketConfig) (id : Int32)
    (listening : String → Except SystemError Link) :
    ((idle config).connect id listening).1.isOk =
      ((idle config).connect id listening).2.isConnected := by
  unfold connect
  split
  · rfl
  · exact isOk_adopt config id _

namespace Opened

variable {σ : Type} {offered : Option Link} {s : Session σ}

/-- A session begins without an error, unless it got no connection. -/
theorem error (opened : Opened offered s) :
    s.error = if s.isConnected then .clear else .unconnected := by
  cases opened with
  | overLink path bus config link decoder sink id process =>
    simp only [Session.overLink, Session.assemble_eq, Session.isConnected, Reader.isOk_adopt]
    rfl
  | overPath path bus config listening decoder sink id process =>
    simp only [Session.overPath, Session.assemble_eq, Session.isConnected, Reader.isOk_connect]
    rfl

/-- After any run, whatever was answered on the bus: the error of a session is what was last decided
about it, by a failure or by an operation that clears it, and before that there is none, or that it
got no connection; the listeners have heard of every failure in the run, in order, and of nothing
else; and the session tells code and text of its own error, if it has one, without asking, and the
daemon's otherwise. -/
theorem error_after (opened : Opened offered s) (events : List Event) :
    (s.run events).error =
        (s.trail Session.verdict events).getLast?.getD
          (if s.isConnected then .clear else .unconnected) ∧
      (s.run events).notices = s.trail Session.told events ∧
      ((s.run events).error.code ≠ .noError → (s.run events).TellsOwn) ∧
      ((s.run events).error.code = .noError → (s.run events).TellsDaemons) := by
  have decided := s.decides_run events
  refine ⟨?_, ?_, Session.tellsOwn, Session.tellsDaemons⟩
  · rw [decided.error, opened.error]
  · rw [decided.notices, opened.fresh.notices, List.nil_append]

/-- The loss of a connection hides the daemon's error until the session is stopped. -/
theorem error_after_loss :
    let lost := [Event.op .start, .op .addListener, .hangUp, .op (.processEvents none)]
    ((Session.acknowledged 4).run lost).error = .lost ∧
      ((Session.acknowledged 4).run lost).notices =
        [⟨0, .clientSocketError, "Socket connection lost."⟩] ∧
      ((Session.acknowledged 4).run lost).TellsOwn ∧
      ((Session.acknowledged 4).run (lost ++ [.op .stop])).TellsDaemons := by
  intro lost
  have before := (opened_acknowledged 4).error_after lost
  have after := (opened_acknowledged 4).error_after (lost ++ [.op .stop])
  exact ⟨by decide, by decide, before.2.2.1 (by decide), after.2.2.2 (by decide)⟩

end Opened

end SensorClient
