import SensorClient.Proofs.Session.Opening
import SensorClient.Proofs.Session.Requests

/-!
# Switching a session on and off

A start makes all of its calls, and a stop all of its own, whatever is answered to each of them.
Each gives back the reply to the one call that it is about: a start the reply to its first call, a
stop the reply to its last one. A session that is where it should be already is left alone.

## Main definitions

* `Conversation.unitReply`: the reply to a call of the channel that asks for nothing
* `Session.Starts`, `Session.Stops`: what a start and a stop that take effect do

## Main results

* `starts`, `stops`: a start of a stopped session and a stop of a running one take effect
* `Session.switching`: what starts and stops do, whatever the session
-/

namespace SensorClient

/-- The reply to a call of the channel that asks for nothing: any value will do. -/
def Conversation.unitReply (talk : Conversation) (method : String) (args : List Arg) : Reply Unit :=
  (talk.bus.answer talk.log (.call .unit method args)).map fun _ => ()

theorem Conversation.call_unit_fst (talk : Conversation) (method : String) (args : List Arg) :
    (talk.call .channel .unit method args).1 = talk.unitReply method args := by
  -- Every value narrows to the empty one, so only errors are told apart.
  change Except.bind (talk.bus.answer talk.log (.call .unit method args)) _ = _
  rw [unitReply]
  cases talk.bus.answer talk.log (.call .unit method args) <;> rfl

namespace Session

variable {σ : Type} {s : Session σ} {id : Int32}

/-- A start takes effect under a number, whatever is answered. -/
structure Starts (s : Session σ) (id : Int32) : Prop where
  /-- The start itself is asked for, then the configuration. That the sensor shall stay on is left
  out if it is not wanted. -/
  calls : (s.startWith id).2.talk = s.talk.after
    ([.call .unit "start" [.int id]] ++
      (if s.desired.standbyOverride then [.call .bool "setStandbyOverride" [.int id, .bool true]]
        else []) ++
      [.call .unit "setInterval" [.int id, .int s.desired.interval],
        .call .unit "setBufferInterval" [.int id, .uint s.desired.bufferInterval],
        .call .unit "setBufferSize" [.int id, .uint s.desired.bufferSize]])
  /-- The answer to the first call alone is given back. -/
  reply : (s.startWith id).1 = s.talk.unitReply "start" [.int id]
  /-- The session runs, hears of samples and has no local error. Nothing else changes. -/
  session : (s.startWith id).2 =
    { s with
      running := true
      reader := { s.reader with subscribed := true }
      error := .clear
      talk := (s.startWith id).2.talk }

/-- A stop takes effect under a number, whatever is answered. -/
structure Stops (s : Session σ) (id : Int32) : Prop where
  /-- The daemon is told not to stay on and to sample at no interval, and then to stop. -/
  calls : (s.stopWith id).2.talk = s.talk.after
    [.call .bool "setStandbyOverride" [.int id, .bool false],
      .call .unit "setInterval" [.int id, .int 0], .call .unit "stop" [.int id]]
  /-- The answer to the last call alone is given back. -/
  reply : (s.stopWith id).1 =
    (s.talk.after
      [.call .bool "setStandbyOverride" [.int id, .bool false],
        .call .unit "setInterval" [.int id, .int 0]]).unitReply "stop" [.int id]
  /-- The session is stopped, hears of no samples and has no local error. Nothing else changes. -/
  session : (s.stopWith id).2 =
    { s with
      running := false
      reader := { s.reader with subscribed := false }
      error := .clear
      talk := (s.stopWith id).2.talk }

theorem starts (stopped : s.running = false) : s.Starts id := by
  have after := s.startWith_snd id stopped
  constructor
  · rw [after]
    rfl
  · rw [startWith_fst id stopped, Conversation.call_unit_fst]
  · rw [after]
    rfl

theorem stops (running : s.running = true) : s.Stops id := by
  have after := s.stopWith_snd id running
  constructor
  · rw [after]
    rfl
  · rw [stopWith_fst id running, Conversation.call_unit_fst]
    rfl
  · rw [after]
    rfl

/-- Whatever the session, whatever it wants, and whatever is answered to each of the calls: a start
takes effect on a stopped session and a stop on a running one, under any number. A start of a running
session and a stop of a stopped one give back a valid reply, ask nothing and change nothing, the
local error included. -/
theorem switching (s : Session σ) (id : Int32) :
    (s.running = false → s.Starts id ∧ s.stopWith id = (.ok (), s)) ∧
      (s.running = true → s.Stops id ∧ s.startWith id = (.ok (), s)) := by
  refine ⟨fun stopped => ?_, fun running => ?_⟩
  · exact ⟨starts stopped, s.stopWith_of_stopped id stopped⟩
  · exact ⟨stops running, s.startWith_of_running id running⟩

/-- A start and a stop under other numbers than the session's own, with every call refused: both
take effect all the same, and both report the refusal. -/
theorem switching_refused :
    let s := ((Session.acknowledged 4).run [.op (.setStandbyOverride true),
      .op (.setError .permission "denied")])
    let refusal : Reply Unit := .error (.connection "no daemon")
    (s.startWith 8).1 = refusal ∧ (s.startWith 8).2.running = true ∧
      (s.startWith 8).2.error = .clear ∧ ((s.startWith 8).2.stopWith 9).1 = refusal ∧
      ((s.startWith 8).2.stopWith 9).2.running = false := by
  intro s refusal
  obtain ⟨started, -⟩ := (s.switching 8).1 rfl
  obtain ⟨stopped, -⟩ := ((s.startWith 8).2.switching 9).2 rfl
  refine ⟨started.reply, ?_, ?_, stopped.reply, ?_⟩
  · rw [started.session]
  · rw [started.session]
  · rw [stopped.session]

end Session

end SensorClient
