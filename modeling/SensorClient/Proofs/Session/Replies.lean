import Mathlib.Data.List.Induction
import SensorClient.Control.Script
import SensorClient.Proofs.Session.Opening
import SensorClient.Proofs.Session.Requests

/-!
# What the replies of the bus decide

A session acts before it hears what the daemon says to it, and hands the reply on to its client. So
two sessions that begin the same on two buses, and to which the same happens, stay the same in all
but what was said on the bus, whatever the buses answer and whether they can be reached at all.
They even ask the same, with two exceptions: a release tells the manager the name of the sensor as
the daemon gave it, and the selection of a data range asks for the one in use only if there is one
at the place in the list.

## Main definitions

* `Session.on`: the same session on another bus
* `Session.InStep`: two sessions are the same in all but the conversation
* `Event.AsksAlike`, `AskAlike`: what is asked on account of an event, and of a run, in two sessions

## Main results

* `InStep.step`, `InStep.asksAlike`: an event keeps two sessions in step, and both ask alike
* `Opened.replies_immaterial`: no reply has a part in what becomes of a session
-/

namespace SensorClient

namespace Request

/-- The call that hands a session back to the manager. -/
def handBack (sensor : String) (id : Int32) (process : Int64) : Request :=
  ⟨.manager, .call "releaseSensor" [.str sensor, .int id, .long process] .bool⟩

/-- The call that asks for the data range in use. -/
def currentDataRange : Request := call .range "getCurrentDataRange" []

end Request

/-- What two sessions ask on account of an event: the same, but for the name under which a session
is handed back, and for the data range in use, for which a selection may or may not ask. -/
inductive Event.AsksAlike : Event → List Request → List Request → Prop
  | same (e : Event) (asked : List Request) : AsksAlike e asked asked
  | named (sensor other : String) (id : Int32) (process : Int64) :
      AsksAlike (.op .release) [.property "id", .handBack sensor id process]
        [.property "id", .handBack other id process]
  | first (index : Int32) (asked : List Request) :
      AsksAlike (.op (.setDataRangeIndex index)) (asked ++ [.currentDataRange]) asked
  | second (index : Int32) (asked : List Request) :
      AsksAlike (.op (.setDataRangeIndex index)) asked (asked ++ [.currentDataRange])

/-- What two sessions have asked in the course of a run: alike with every event. -/
inductive AskAlike : List Event → List Request → List Request → Prop
  | nil : AskAlike [] [] []
  | snoc {events : List Event} {log log' asked asked' : List Request} {e : Event}
      (before : AskAlike events log log') (alike : e.AsksAlike asked asked') :
      AskAlike (events ++ [e]) (log ++ asked) (log' ++ asked')

namespace Session

variable {σ : Type} {s t : Session σ}

/-- The same session in another conversation. -/
def withTalk (s : Session σ) (talk : Conversation) : Session σ := { s with talk }

/-- Two sessions are the same in all but what was said on the bus: in what is wanted, in the flags,
in the local error and what the listeners were told, in the connection with the bytes pending on it,
and in what the decoder made of the samples. -/
def InStep (s t : Session σ) : Prop := ∃ talk, t = s.withTalk talk

/-! ## What an operation does in another conversation -/

theorem inStep_startWith (s : Session σ) (talk : Conversation) (id : Int32) :
    (s.startWith id).2.InStep ((s.withTalk talk).startWith id).2 := by
  cases running : s.running with
  | true =>
    rw [startWith_of_running s id running, startWith_of_running (s.withTalk talk) id running]
    exact ⟨talk, rfl⟩
  | false =>
    rw [startWith_snd s id running, startWith_snd (s.withTalk talk) id running]
    exact ⟨_, rfl⟩

theorem inStep_stopWith (s : Session σ) (talk : Conversation) (id : Int32) :
    (s.stopWith id).2.InStep ((s.withTalk talk).stopWith id).2 := by
  cases running : s.running with
  | true =>
    rw [stopWith_snd s id running, stopWith_snd (s.withTalk talk) id running]
    exact ⟨_, rfl⟩
  | false =>
    rw [stopWith_of_stopped s id running, stopWith_of_stopped (s.withTalk talk) id running]
    exact ⟨talk, rfl⟩

theorem inStep_effective (s : Session σ) (talk : Conversation) (k : Kind) (name : String)
    (wanted : k.Carrier) :
    (s.effective k name wanted).2.InStep ((s.withTalk talk).effective k name wanted).2 := by
  unfold effective withTalk
  split <;> exact ⟨_, rfl⟩

/-- Waiting for samples comes to the same. -/
theorem processEvents_withTalk (s : Session σ) (talk : Conversation) (limit : Option Duration) :
    (s.withTalk talk).processEvents limit =
      ((s.processEvents limit).1, (s.processEvents limit).2.withTalk talk) := by
  unfold processEvents withTalk
  dsimp only
  split
  · rfl
  · split <;> rfl

/-- An operation comes to the same in all but what is said. -/
theorem inStep_perform (s : Session σ) (talk : Conversation) (op : Op) :
    (s.perform op).2.InStep ((s.withTalk talk).perform op).2 := by
  cases op with
  | start => exact s.inStep_startWith talk s.id
  | startWith id => exact s.inStep_startWith talk id
  | stop => exact s.inStep_stopWith talk s.id
  | stopWith id => exact s.inStep_stopWith talk id
  | release =>
    change s.release.2.InStep (s.withTalk talk).release.2
    unfold Session.release withTalk
    split <;> exact ⟨_, rfl⟩
  | setInterval value =>
    change (s.setInterval value).InStep ((s.withTalk talk).setInterval value)
    unfold Session.setInterval withTalk
    dsimp only
    split <;> exact ⟨_, rfl⟩
  | setBufferInterval value =>
    change (s.setBufferInterval value).InStep ((s.withTalk talk).setBufferInterval value)
    unfold Session.setBufferInterval withTalk
    dsimp only
    split <;> exact ⟨_, rfl⟩
  | setBufferSize value =>
    change (s.setBufferSize value).InStep ((s.withTalk talk).setBufferSize value)
    unfold Session.setBufferSize withTalk
    dsimp only
    split <;> exact ⟨_, rfl⟩
  | interval | bufferInterval | bufferSize | standbyOverride => exact s.inStep_effective talk _ _ _
  | setDataRangeIndex index =>
    change (s.setDataRangeIndex index).2.InStep ((s.withTalk talk).setDataRangeIndex index).2
    rw [setDataRangeIndex_snd, setDataRangeIndex_snd]
    exact ⟨_, rfl⟩
  | errorCode =>
    change s.errorCode.2.InStep (s.withTalk talk).errorCode.2
    unfold Session.errorCode withTalk
    split <;> exact ⟨_, rfl⟩
  | errorString =>
    change s.errorString.2.InStep (s.withTalk talk).errorString.2
    unfold Session.errorString withTalk
    split <;> exact ⟨_, rfl⟩
  | processEvents limit => exact ⟨talk, congrArg Prod.snd (s.processEvents_withTalk talk limit)⟩
  | _ => exact ⟨_, rfl⟩

/-- An operation asks alike. Only a release and a selection listen before they ask on. -/
theorem asksAlike_requests (s : Session σ) (talk : Conversation) (op : Op) :
    (Event.op op).AsksAlike (s.requests op) ((s.withTalk talk).requests op) := by
  cases op with
  | release =>
    unfold requests withTalk
    dsimp only
    split
    · exact .same _ []
    · exact .named _ _ s.id s.process
  | setDataRangeIndex index =>
    unfold requests selectRequests
    dsimp only
    -- Either of the two may have found a range at the place.
    split <;> split
    · exact .same _ _
    · exact .first index _
    · exact .second index _
    · exact .same _ _
  | _ => exact .same _ _

/-! ## What a run does in another conversation -/

theorem InStep.step (inStep : s.InStep t) (e : Event) : (s.step e).InStep (t.step e) := by
  obtain ⟨talk, rfl⟩ := inStep
  cases e with
  | op op => exact s.inStep_perform talk op
  | _ => exact ⟨talk, rfl⟩

theorem InStep.asksAlike (inStep : s.InStep t) (e : Event) :
    e.AsksAlike (s.requestsOn e) (t.requestsOn e) := by
  obtain ⟨talk, rfl⟩ := inStep
  cases e with
  | op op => exact s.asksAlike_requests talk op
  | _ => exact .same _ []

theorem InStep.run (inStep : s.InStep t) (events : List Event) :
    (s.run events).InStep (t.run events) := by
  induction events generalizing s t with
  | nil => exact inStep
  | cons e events ih => exact ih (inStep.step e)

/-- Two sessions in step that have asked nothing ask alike in every run. -/
theorem InStep.askAlike_run (inStep : s.InStep t) (silent : s.talk.log = [])
    (silent' : t.talk.log = []) (events : List Event) :
    AskAlike events (s.run events).talk.log (t.run events).talk.log := by
  induction events using List.reverseRecOn with
  | nil =>
    rw [run_nil, run_nil, silent, silent']
    exact .nil
  | append_singleton events e ih =>
    rw [run_snoc, run_snoc, log_step, log_step]
    exact ih.snoc ((inStep.run events).asksAlike e)

/-- The same session on another bus, which nobody has asked anything. -/
def on (s : Session σ) (bus : Bus) : Session σ := s.withTalk (.begin bus)

end Session

namespace Opened

variable {σ : Type} {offered : Option Link} {s : Session σ}

/-- A session just opened could have been opened on any other bus, on the same connection. -/
theorem on (opened : Opened offered s) (bus : Bus) : Opened offered (s.on bus) := by
  cases opened with
  | overLink path _ config link decoder sink id process =>
    have moved := Opened.overLink path bus config link decoder sink id process
    simpa only [Session.on, Session.withTalk, Session.overLink, Session.assemble_eq] using moved
  | overPath path _ config listening decoder sink id process =>
    have moved := Opened.overPath path bus config listening decoder sink id process
    simpa only [Session.on, Session.withTalk, Session.overPath, Session.assemble_eq] using moved

/-- Take a session just opened, and the same session opened on any other bus, and let the same
happen to both. Then they stay the same in all but what was said on the bus, they ask alike, and
waiting for samples comes to the same in both. -/
theorem replies_immaterial (opened : Opened offered s) (bus : Bus) (events : List Event) :
    Opened offered (s.on bus) ∧
      (s.run events).InStep ((s.on bus).run events) ∧
      AskAlike events (s.run events).talk.log ((s.on bus).run events).talk.log ∧
      ∀ limit, (((s.on bus).run events).processEvents limit).1 =
        ((s.run events).processEvents limit).1 := by
  have begins : s.InStep (s.on bus) := ⟨.begin bus, rfl⟩
  have inStep := begins.run events
  refine ⟨opened.on bus, inStep, begins.askAlike_run opened.fresh.log rfl events, ?_⟩
  intro limit
  obtain ⟨talk, other⟩ := inStep
  rw [other, Session.processEvents_withTalk]

/-- Where a data range is on offer its selection asks for the one in use besides. -/
theorem replies_immaterial_on_offer :
    let offering := Bus.scripted fun _ => { Script.quiet with
      calls := [⟨"getAvailableDataRanges", 0, [.ok (.ranges [default])]⟩] }
    let events := [Event.op .start, .op (.setDataRangeIndex 0)]
    let s := (Session.acknowledged 4).run events
    let t := ((Session.acknowledged 4).on offering).run events
    s.InStep t ∧ t.talk.log = s.talk.log ++ [.currentDataRange] :=
  ⟨((opened_acknowledged 4).replies_immaterial _ _).2.1, rfl⟩

end Opened

end SensorClient
