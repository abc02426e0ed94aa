import Mathlib.Data.List.Chain
import SensorClient.Proofs.Session.Released

/-!
# The states of a session

A session calls the daemon to start it and to stop it only where that changes whether it runs. So
these calls take turns, a start first, and the last of them tells whether the session runs, whatever
was answered to it. It hears of samples exactly while it runs, and it runs on or stops also when it
is of no more use; but once it is of no more use it never is of any again.

## Main definitions

* `Request.switch?`, `Session.switches`: the calls that start and stop a session, by their methods
* `Session.TakesTurns`: starts and stops take turns, and the last one tells whether the session runs

## Main results

* `switches_perform`: an operation calls for a start or a stop exactly if it changes whether the
  session runs
* `Opened.keeps_state`: the flags and the state of a session after any run
-/

namespace SensorClient

/-- The method of a call that starts or stops a session. -/
def Request.switch? : Request → Option String
  | ⟨.channel, .call method _ _⟩ =>
    if method = "start" ∨ method = "stop" then some method else none
  | _ => none

namespace Session

variable {σ : Type} {s : Session σ}

/-- The calls that started and stopped the session, by their methods. -/
def switches (s : Session σ) : List String := s.talk.log.filterMap Request.switch?

/-- Starts and stops take turns, a start first, and the session runs if the last one is a start. -/
structure TakesTurns (s : Session σ) : Prop where
  alternate : s.switches.IsChain (· ≠ ·)
  first : s.switches.head? ≠ some "stop"
  last : s.running = true ↔ s.switches.getLast? = some "start"

/-! ## Starts and stops -/

/-- The call that makes a session run or not run. -/
def switchTo (running : Bool) : String := if running then "start" else "stop"

theorem switch?_start (id : Int32) (desired : Desired) :
    (Request.start id desired).filterMap Request.switch? = ["start"] := by
  cases wanted : desired.standbyOverride <;>
    simp [Request.start, wanted, Request.switch?, Request.call, Request.setInterval,
      Request.setBufferInterval, Request.setBufferSize, Request.setStandbyOverride]

theorem switch?_stop (id : Int32) :
    (Request.stop id).filterMap Request.switch? = ["stop"] := rfl

/-- An operation calls for a start or a stop exactly if it changes whether the session runs. -/
theorem switches_perform (s : Session σ) (op : Op) :
    (s.perform op).2.switches = s.switches ++
      if op.running s.running = s.running then [] else [switchTo (op.running s.running)] := by
  rw [switches, talk_perform, Conversation.log_after, List.filterMap_append, switches]
  congr 1
  cases op with
  | start | startWith id =>
    cases running : s.running <;> simp only [requests, running]
    · exact switch?_start _ _
    · rfl
  | stop | stopWith id =>
    cases running : s.running <;> simp only [requests, running]
    · rfl
    · exact switch?_stop _
  | setInterval value | setBufferInterval value | setBufferSize value
  | interval | bufferInterval | bufferSize | standbyOverride =>
    rw [if_pos (by rfl)]
    cases running : s.running <;> simp only [requests, running] <;> rfl
  | release =>
    rw [if_pos (by rfl)]
    cases released : s.released <;> simp only [requests, released] <;> rfl
  | errorCode | errorString =>
    rw [if_pos (by rfl)]
    cases set : s.error.isSet <;> simp only [requests, set] <;> rfl
  | setDataRangeIndex index =>
    rw [if_pos (by rfl)]
    simp only [requests, selectRequests]
    split <;> rfl
  | _ => exact (if_pos rfl).symm

/-- A call for a start or a stop that changes whether the session runs comes in turn. -/
theorem TakesTurns.switch {t : Session σ} (turns : s.TakesTurns) (changed : t.running = !s.running)
    (switches : t.switches = s.switches ++ [switchTo t.running]) : t.TakesTurns := by
  constructor
  · rw [switches, List.isChain_append]
    refine ⟨turns.alternate, .singleton _, ?_⟩
    rintro last isLast next ⟨⟩ rfl
    rw [changed] at isLast
    -- The last call before this one was a start exactly if the session ran.
    cases running : s.running with
    | false =>
      rw [running] at isLast
      rw [turns.last.mpr isLast] at running
      cases running
    | true =>
      rw [running, turns.last.mp running] at isLast
      exact absurd isLast (by decide)
  · rw [switches, List.head?_append]
    cases first : s.switches.head? with
    | some method => simpa [first] using turns.first
    | none =>
      have stopped : s.running = false := by
        rw [← Bool.not_eq_true, turns.last, List.head?_eq_none_iff.mp first]
        exact nofun
      rw [changed, stopped]
      decide
  · rw [switches, List.getLast?_concat]
    cases t.running <;> decide

/-- A session that takes turns goes on to do so. -/
theorem TakesTurns.perform (turns : s.TakesTurns) (op : Op) : (s.perform op).2.TakesTurns := by
  have running := (s.perform_effect op).running
  have switches := s.switches_perform op
  by_cases same : op.running s.running = s.running
  · rw [if_pos same, List.append_nil] at switches
    rw [same] at running
    constructor
    · rw [switches]; exact turns.alternate
    · rw [switches]; exact turns.first
    · rw [switches, running]; exact turns.last
  · rw [if_neg same, ← running] at switches
    exact turns.switch (running.trans (Bool.eq_not_of_ne same)) switches

theorem TakesTurns.step (turns : s.TakesTurns) (e : Event) : (s.step e).TakesTurns := by
  cases e with
  | op op => exact turns.perform op
  | _ => exact ⟨turns.alternate, turns.first, turns.last⟩

theorem state_eq_running_iff (s : Session σ) :
    s.state = .running ↔ s.state ≠ .invalid ∧ s.running = true := by
  unfold state
  cases s.released <;> cases s.isConnected <;> cases s.running <;> simp

end Session

namespace Opened

variable {σ : Type} {offered : Option Link} {s : Session σ}

theorem takesTurns (opened : Opened offered s) : s.TakesTurns := by
  have unasked : s.switches = [] := by rw [Session.switches, opened.fresh.log]; rfl
  constructor
  · rw [unasked]; exact .nil
  · rw [unasked]; exact nofun
  · rw [unasked, opened.fresh.running]
    exact iff_of_false Bool.false_ne_true nofun

theorem state_run (opened : Opened offered s) (events : List Event) :
    (s.run events).state = .invalid ↔ .op .release ∈ events ∨ s.isConnected = false := by
  rw [Session.state_eq_invalid_iff, opened.released_run, s.isConnected_run]

/-- After any run, whatever was answered on the bus and whether the session got its connection or
not: it runs exactly if it hears of samples; it is connected exactly if it was from the beginning;
its starts and stops have taken turns; it is of no more use exactly if it was released or never
connected, and else in the state of running exactly if it runs; and once it is of no more use it
stays so. -/
theorem keeps_state (opened : Opened offered s) (events : List Event) :
    (s.run events).running = (s.run events).reader.subscribed ∧
      (s.run events).isConnected = s.isConnected ∧
      (s.run events).TakesTurns ∧
      ((s.run events).state = .invalid ↔ .op .release ∈ events ∨ s.isConnected = false) ∧
      ((s.run events).state ≠ .invalid →
        ((s.run events).state = .running ↔ (s.run events).running = true)) ∧
      ((s.run events).state = .invalid → ∀ more, (s.run (events ++ more)).state = .invalid) := by
  refine ⟨(opened.subscribed_run events).symm, s.isConnected_run events, ?_,
    opened.state_run events, ?_, ?_⟩
  · exact Session.run_induction (A := fun _ => True)
      (fun _ e _ turns => turns.step e) (fun _ _ => trivial) opened.takesTurns
  · intro useful
    rw [Session.state_eq_running_iff]
    exact and_iff_right useful
  · intro invalid more
    rw [opened.state_run] at invalid ⊢
    exact invalid.imp_left (List.mem_append_left more)

/-- A session goes on running when it is released, and even starts again, but stays of no use. -/
theorem keeps_state_released :
    ((Session.acknowledged 4).run
        [.op .start, .op .release, .op .stop, .op (.startWith 9)]).state = .invalid ∧
      ((Session.acknowledged 4).run
        [.op .start, .op .release, .op .stop, .op (.startWith 9)]).reader.subscribed = true := by
  have kept := (opened_acknowledged 4).keeps_state
    [.op .start, .op .release, .op .stop, .op (.startWith 9)]
  exact ⟨kept.2.2.2.1.mpr (.inl (by decide)), kept.1.symm.trans rfl⟩

end Opened

end SensorClient
