import SensorClient.Proofs.Session.Effect
import SensorClient.Proofs.Session.Opening

/-!
# The life of a session

The flags of a session after a run are read off the events alone: it runs if the last start or stop
was a start, it has been released if there was a release, and it is connected if it was from the
beginning. It hears of samples exactly while it runs.

## Main definitions

* `startedLast events`: the last start or stop among the events is a start

## Main results

* `Opened.running_run`, `Opened.released_run`, `isConnected_run`: the flags after a run
* `Opened.subscribed_run`: a session hears of samples exactly while it runs
-/

namespace SensorClient

/-- Whether a session runs after an event. -/
def Event.running (before : Bool) : Event → Bool
  | .op act => act.running before
  | _ => before

/-- The last start or stop among the events, whoever's number it is under, is a start. -/
def startedLast (events : List Event) : Bool := events.foldl Event.running false

namespace Session

variable {σ : Type}

/-! ## Steps -/

theorem running_step (s : Session σ) (e : Event) : (s.step e).running = e.running s.running := by
  cases e with
  | op op => exact (s.perform_effect op).running
  | _ => rfl

theorem released_step (s : Session σ) (e : Event) :
    (s.step e).released = (s.released || e == .op .release) := by
  cases e with
  | op op =>
    refine (s.perform_effect op).released.trans ?_
    cases op <;> simp [Op.released]
  | _ => simp [step, onLink]

theorem subscribed_step {s : Session σ} (agree : s.reader.subscribed = s.running) (e : Event) :
    (s.step e).reader.subscribed = (s.step e).running := by
  cases e with
  | op op =>
    have effect := s.perform_effect op
    -- The subscription follows the running flag where that changes, and both stay otherwise.
    refine effect.subscribed.trans ?_
    split
    · next same => exact agree.trans same.symm
    · rfl
  | _ => exact agree

/-! ## Runs -/

theorem isConnected_run (s : Session σ) (events : List Event) :
    (s.run events).isConnected = s.isConnected :=
  run_induction (A := fun _ => True) (P := fun t => t.isConnected = s.isConnected)
    (fun t e _ held => (t.isConnected_step e).trans held) (fun _ _ => trivial) rfl

theorem released_run (s : Session σ) (events : List Event) :
    (s.run events).released = (s.released || events.contains (.op .release)) := by
  induction events generalizing s with
  | nil => simp
  | cons e events ih =>
    rw [run, List.foldl_cons, ← run, ih, released_step, List.contains_cons, Bool.or_assoc,
      Bool.beq_comm]

end Session

namespace Opened

variable {σ : Type} {offered : Option Link} {s : Session σ}

/-- A session runs exactly if the last start or stop was a start. -/
theorem running_run (opened : Opened offered s) (events : List Event) :
    (s.run events).running = startedLast events := by
  have fold : ∀ t : Session σ, (t.run events).running = events.foldl Event.running t.running := by
    intro t
    induction events generalizing t with
    | nil => rfl
    | cons e events ih => exact (ih (t.step e)).trans (by rw [t.running_step]; rfl)
  rw [fold, opened.fresh.running, startedLast]

/-- A session has been released exactly if there was a release. -/
theorem released_run (opened : Opened offered s) (events : List Event) :
    (s.run events).released = true ↔ .op .release ∈ events := by
  rw [s.released_run, opened.fresh.released, Bool.false_or, List.contains_iff_mem]

/-- A session hears of samples exactly while it runs. -/
theorem subscribed_run (opened : Opened offered s) (events : List Event) :
    (s.run events).reader.subscribed = (s.run events).running := by
  refine Session.run_induction (A := fun _ => True)
    (P := fun t => t.reader.subscribed = t.running)
    (fun _ e _ agree => Session.subscribed_step agree e) (fun _ _ => trivial) ?_
  rw [opened.fresh.subscribed, opened.fresh.running]

end Opened

end SensorClient
