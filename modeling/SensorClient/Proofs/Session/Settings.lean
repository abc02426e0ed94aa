import Mathlib.Data.List.Induction
import SensorClient.Proofs.Session.Mirror

/-!
# The settings that a session keeps

A session keeps four settings for its client. Each is given its value by one operation and by
nothing else: what is sent to the daemon under any number, what a start pushes and a stop takes back,
and whatever the daemon answers, leave it alone. Asking for a setting gives the value kept while the
session is stopped, and what the daemon says while it runs.

## Main definitions

* `Setting.kind`, `Setting.property`, `Setting.value`: what a setting is, for the daemon and in a
  configuration
* `Setting.setter`, `Setting.getter`: the operations that give it a value and ask for it
* `lastGiven`: the value that events gave a setting last
* `Session.Tells`: what asking for a setting comes to

## Main results

* `Session.value_step`, `Session.value_run`: a setting after an event and after a run
* `Session.tells`: what asking for a setting comes to, whatever the session
* `Opened.settings_kept`: all of this for every session that was opened
-/

namespace SensorClient

namespace Setting

/-- The kind of the values of a setting. -/
def kind : Setting → Kind
  | interval => .int
  | bufferInterval | bufferSize => .uint
  | standbyOverride => .bool

/-- The property of the channel that says what the daemon goes by. -/
def property : Setting → String
  | interval => "interval"
  | bufferInterval => "bufferInterval"
  | bufferSize => "bufferSize"
  | standbyOverride => "standbyOverride"

/-- The value of a setting in a configuration. -/
def value (desired : Desired) : (setting : Setting) → setting.kind.Carrier
  | interval => desired.interval
  | bufferInterval => desired.bufferInterval
  | bufferSize => desired.bufferSize
  | standbyOverride => desired.standbyOverride

/-- The operation that gives a setting a value. -/
def setter : (setting : Setting) → setting.kind.Carrier → Op
  | interval, value => .setInterval value
  | bufferInterval, value => .setBufferInterval value
  | bufferSize, value => .setBufferSize value
  | standbyOverride, value => .setStandbyOverride value

/-- The operation that asks for a setting. -/
def getter : Setting → Op
  | interval => .interval
  | bufferInterval => .bufferInterval
  | bufferSize => .bufferSize
  | standbyOverride => .standbyOverride

end Setting

variable {setting : Setting} {events : List Event} {e : Event}

/-! ## What is given to a setting -/

/-- The value that an operation gives a setting. -/
def Op.given? : (setting : Setting) → Op → Option setting.kind.Carrier
  | .interval, .setInterval value => some value
  | .bufferInterval, .setBufferInterval value => some value
  | .bufferSize, .setBufferSize value => some value
  | .standbyOverride, .setStandbyOverride value => some value
  | _, _ => none

/-- Its setter gives a setting a value, and nothing else does. -/
theorem Op.given?_eq_some_iff {op : Op} {value : setting.kind.Carrier} :
    op.given? setting = some value ↔ op = setting.setter value := by
  constructor
  · intro given
    cases setting <;> cases op <;> cases given <;> rfl
  · rintro rfl
    cases setting <;> rfl

theorem Op.given?_eq_none {op : Op} (other : ∀ value, op ≠ setting.setter value) :
    op.given? setting = none := by
  cases given : op.given? setting with
  | none => rfl
  | some value => exact absurd (Op.given?_eq_some_iff.mp given) (other value)

/-- An operation changes a setting only by giving it a value. -/
theorem Op.value_wanted (op : Op) (before : Desired) (setting : Setting) :
    setting.value (op.wanted before) = (op.given? setting).getD (setting.value before) := by
  cases setting <;> cases op <;> rfl

/-- The value that an event gives a setting. -/
def Event.given? (setting : Setting) : Event → Option setting.kind.Carrier
  | .op act => act.given? setting
  | _ => none

/-- The value that events gave a setting last, if they gave it any. -/
def lastGiven (setting : Setting) (events : List Event) : Option setting.kind.Carrier :=
  (events.filterMap (Event.given? setting)).getLast?

theorem lastGiven_append (setting : Setting) (before after : List Event) :
    lastGiven setting (before ++ after) = (lastGiven setting after).or (lastGiven setting before) := by
  rw [lastGiven, List.filterMap_append, List.getLast?_append]
  rfl

theorem lastGiven_eq_none (none : ∀ e ∈ events, e.given? setting = none) :
    lastGiven setting events = .none := by
  rw [lastGiven, List.getLast?_eq_none_iff, List.filterMap_eq_nil_iff]
  exact none

namespace Session

variable {σ : Type} {s : Session σ}

/-- An event changes a setting only by giving it a value. -/
theorem value_step (s : Session σ) (e : Event) (setting : Setting) :
    setting.value (s.step e).desired = (e.given? setting).getD (setting.value s.desired) := by
  cases e with
  | op op =>
    change setting.value (s.perform op).2.desired = _
    rw [(s.perform_effect op).desired]
    exact op.value_wanted s.desired setting
  | _ => rfl

/-- A setting has the value that it was given last, or else keeps the one it had. -/
theorem value_run (s : Session σ) (events : List Event) (setting : Setting) :
    setting.value (s.run events).desired =
      (lastGiven setting events).getD (setting.value s.desired) := by
  induction events using List.reverseRecOn with
  | nil => rfl
  | append_singleton events e ih =>
    -- The last event gives the setting a value, or else the value given last before it stays.
    have last : lastGiven setting [e] = e.given? setting := by
      cases given : e.given? setting <;> simp [lastGiven, given]
    rw [run_snoc, value_step, ih, lastGiven_append, last, Option.getD_or]

/-! ## Asking for a setting -/

/-- What asking a session for a setting comes to. -/
structure Tells (s : Session σ) (setting : Setting) : Prop where
  /-- While stopped, the value kept is given as a valid reply. Nothing is asked on the bus, and
  nothing changes. -/
  kept : s.running = false →
    s.perform setting.getter = (.reply setting.kind (.ok (setting.value s.desired)), s)
  /-- While running, the property of that name is read once, and that is all. -/
  asks : s.running = true →
    (s.perform setting.getter).2 = { s with talk := s.talk.after [.property setting.property] }
  /-- A value that can be narrowed is given so, whatever is kept. -/
  read : s.running = true → ∀ v narrowed,
    s.talk.bus.answer s.talk.log (.property setting.property) = .ok v →
      setting.kind.narrow v = some narrowed →
        (s.perform setting.getter).1 = .reply setting.kind (.ok narrowed)
  /-- A value of a wrong shape is reported as such. -/
  misshapen : s.running = true → ∀ v,
    s.talk.bus.answer s.talk.log (.property setting.property) = .ok v →
      setting.kind.narrow v = none →
        (s.perform setting.getter).1 =
          .reply setting.kind (.error (.replyType setting.property setting.kind))
  /-- A read that fails gives its error. -/
  failed : s.running = true → ∀ e,
    s.talk.bus.answer s.talk.log (.property setting.property) = .error e →
      (s.perform setting.getter).1 = .reply setting.kind (.error e)

/-- Each of the getters looks at what is effective. -/
theorem perform_getter (s : Session σ) (setting : Setting) :
    s.perform setting.getter =
      giving (.reply setting.kind)
        (s.effective setting.kind setting.property (setting.value s.desired)) := by
  cases setting <;> rfl

theorem perform_getter_of_stopped (stopped : s.running = false) (setting : Setting) :
    s.perform setting.getter = (.reply setting.kind (.ok (setting.value s.desired)), s) := by
  simp [perform_getter, effective, stopped, giving]

theorem perform_getter_of_running (running : s.running = true) (setting : Setting) :
    s.perform setting.getter =
      (.reply setting.kind
        ((s.talk.bus.answer s.talk.log (.property setting.property)).bind
          (setting.kind.replyTo setting.property)),
        { s with talk := s.talk.after [.property setting.property] }) := by
  rw [perform_getter, effective, if_pos running]
  rfl

theorem tells (s : Session σ) (setting : Setting) : s.Tells setting where
  kept stopped := perform_getter_of_stopped stopped setting
  asks running := by rw [perform_getter_of_running running]
  read := by
    intro running v narrowed answered narrows
    rw [perform_getter_of_running running, answered]
    simp [Except.bind, Kind.replyTo, narrows]
  misshapen := by
    intro running v answered narrows
    rw [perform_getter_of_running running, answered]
    simp [Except.bind, Kind.replyTo, narrows]
  failed := by
    intro running e answered
    rw [perform_getter_of_running running, answered]
    rfl

/-- What happens between a start and a stop, other than setting it, leaves what a stopped session
says of a setting as it was. -/
theorem getter_cycle (s : Session σ) {between : List Event} {first last : Int32}
    (unset : ∀ e ∈ between, e.given? setting = none) (stopped : s.running = false) :
    ((s.run ([.op (.startWith first)] ++ between ++ [.op (.stopWith last)])).perform
      setting.getter).1 = (s.perform setting.getter).1 := by
  have given : ∀ e ∈ [Event.op (.startWith first)] ++ between ++ [.op (.stopWith last)],
      e.given? setting = none := by
    -- Neither a start nor a stop is the setter of any setting.
    intro e mem
    rcases List.mem_append.mp mem with mem | mem
    · rcases List.mem_append.mp mem with mem | mem
      · cases List.mem_singleton.mp mem
        cases setting <;> rfl
      · exact unset e mem
    · cases List.mem_singleton.mp mem
      cases setting <;> rfl
  have kept := s.value_run ([.op (.startWith first)] ++ between ++ [.op (.stopWith last)]) setting
  rw [lastGiven_eq_none given, Option.getD_none] at kept
  have ends : (s.run ([.op (.startWith first)] ++ between ++ [.op (.stopWith last)])).running =
      false := by
    rw [run_snoc, running_step]
    rfl
  rw [perform_getter_of_stopped ends, perform_getter_of_stopped stopped, kept]

end Session

namespace Opened

open Session

variable {σ : Type} {offered : Option Link} {s : Session σ}

/-- After any run, whatever was answered on the bus: each setting has the value that its setter was
given last, or its default, and no other operation changes it. Asking for it gives that value while
the session is stopped, and what the daemon says while it runs. A start and a stop under any numbers,
and whatever happens between them other than setting it, leave what a stopped session says of it as
it was. -/
theorem settings_kept (opened : Opened offered s) (events : List Event) (setting : Setting) :
    setting.value (s.run events).desired =
        (lastGiven setting events).getD (setting.value .initial) ∧
      (∀ op, (∀ value, op ≠ setting.setter value) →
        setting.value ((s.run events).perform op).2.desired =
          setting.value (s.run events).desired) ∧
      (s.run events).Tells setting ∧
      ∀ first between last, (∀ e ∈ between, e.given? setting = none) →
        (s.run events).running = false →
          (((s.run events).run
            ([.op (.startWith first)] ++ between ++ [.op (.stopWith last)])).perform
              setting.getter).1 = ((s.run events).perform setting.getter).1 := by
  refine ⟨?_, ?_, (s.run events).tells setting, fun _ _ _ unset stopped =>
    (s.run events).getter_cycle unset stopped⟩
  · rw [value_run, opened.fresh.desired]
  · -- As an event, an operation other than the setter gives the setting nothing.
    intro op other
    have kept := (s.run events).value_step (.op op) setting
    rwa [show Event.given? setting (.op op) = none from Op.given?_eq_none other] at kept

/-- A session that every call is refused to, started and stopped under other numbers than its own
and with another interval sent meanwhile, still says the interval that it was given. -/
theorem settings_kept_refused :
    let s := (Session.acknowledged 4).run [.op (.setInterval 20)]
    (s.perform .interval).1 = .reply .int (.ok 20) ∧
      ((s.run [.op (.startWith 8), .op (.sendInterval 8 50), .op (.stopWith 9)]).perform
        .interval).1 = .reply .int (.ok 20) ∧
      ((s.run [.op (.startWith 8)]).perform .interval).1 =
        .reply .int (.error (.connection "no daemon")) := by
  intro s
  have opened := opened_acknowledged 4
  obtain ⟨-, -, tells, cycle⟩ := opened.settings_kept [.op (.setInterval 20)] .interval
  obtain ⟨-, -, running, -⟩ :=
    opened.settings_kept [.op (.setInterval 20), .op (.startWith 8)] .interval
  have kept : (s.perform .interval).1 = .reply .int (.ok 20) := congrArg Prod.fst (tells.kept rfl)
  refine ⟨kept, ?_, running.failed rfl _ rfl⟩
  exact (cycle 8 [.op (.sendInterval 8 50)] 9 (by simp [Event.given?, Op.given?]) rfl).trans kept

end Opened

end SensorClient
