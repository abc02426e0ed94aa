import SensorClient.Proofs.Session.Lifecycle

/-!
# What the daemon was last told

The daemon goes by what it was last sent. A client that only wants settings, and starts and stops
under its session's own number, can read that off the session: while it runs the daemon samples at
the wanted interval and stays on as wanted, while it is stopped the daemon samples at no interval,
and the buffer is as wanted unless it was wanted otherwise since the last start and while running.

A start sends that the sensor shall stay on only if that is wanted. It may leave it out otherwise,
because the daemon of a stopped session that does not want it was last sent just that: this is the
invariant that carries the setting through a start.

## Main definitions

* `Setting`, `Session.sent`: a setting, and what the daemon was last sent as it
* `Op.isPlain`: the operations that send nothing of their own
* `Session.Mirrored`: the daemon was last sent what the session takes it to go by
* `Session.JustSent`, `Session.SetStopped`: where a stretch of a run may begin, and what it leaves
  alone

## Main results

* `sent_start`, `sent_stop`, `sent_set`: what an operation does to what was last sent
* `Mirrored.step`, `carries_step`, `sent_buffer_step`: what a plain event keeps
* `Opened.daemon_mirrors`: what every run of plain events comes to
-/

namespace SensorClient

/-- A setting that the daemon is sent. -/
inductive Setting where
  | interval
  | bufferInterval
  | bufferSize
  | standbyOverride
deriving DecidableEq, Repr

namespace Setting

/-- The method that sends a setting. -/
def method : Setting → String
  | interval => "setInterval"
  | bufferInterval => "setBufferInterval"
  | bufferSize => "setBufferSize"
  | standbyOverride => "setStandbyOverride"

/-- A setting as it is wanted. -/
def wanted (desired : Desired) : Setting → Arg
  | interval => .int desired.interval
  | bufferInterval => .uint desired.bufferInterval
  | bufferSize => .uint desired.bufferSize
  | standbyOverride => .bool desired.standbyOverride

/-- What the daemon goes by as long as it was sent nothing. -/
def unsent : Setting → Arg
  | interval => .int 0
  | bufferInterval => .uint 0
  | bufferSize => .uint 1
  | standbyOverride => .bool false

/-- The settings of the daemon's buffer. -/
def isBuffering : Setting → Bool
  | bufferInterval | bufferSize => true
  | _ => false

/-- Whether a setting that is wanted otherwise is sent at once: the interval is while the session
runs, those of the buffer are while it does not, and staying on always is. -/
def sentWhile (running : Bool) : Setting → Bool
  | interval => running
  | bufferInterval | bufferSize => !running
  | standbyOverride => true

end Setting

namespace Op

/-- The setting that an operation wants otherwise. -/
def setting? : Op → Option Setting
  | .setInterval _ => some .interval
  | .setBufferInterval _ => some .bufferInterval
  | .setBufferSize _ => some .bufferSize
  | .setStandbyOverride _ => some .standbyOverride
  | _ => none

/-- The operations that send nothing but what the session decides on, under its own number. -/
def isPlain : Op → Bool
  | .startWith _ | .stopWith _ => false
  | .sendInterval _ _ | .sendBufferInterval _ _ => false
  | .sendBufferSize _ _ | .sendStandbyOverride _ _ => false
  | _ => true

end Op

/-- What a client does with plain operations, and whatever the daemon does. -/
def Event.isPlain : Event → Bool
  | .op act => act.isPlain
  | _ => true

namespace Request

/-- What a request sends as a setting: the argument after the number of the session. -/
def sent? (setting : Setting) : Request → Option Arg
  | ⟨.channel, .call method [_, value] _⟩ => if method = setting.method then some value else none
  | _ => none

/-- The last thing that requests send as a setting. -/
def lastSent (setting : Setting) (log : List Request) : Option Arg :=
  (log.filterMap (sent? setting)).getLast?

/-- The methods of a channel that are called for a session. -/
def sessionMethods : List String :=
  ["start", "stop", "setInterval", "setBufferInterval", "setBufferSize", "setStandbyOverride",
    "requestDataRange", "removeDataRangeRequest", "setDataRangeIndex"]

/-- A call for a session, if it is one, is for the session of this number. Whatever is called on the
channel with arguments at all is for a session, whose number comes first; the manager takes a
session back under the name of its sensor and then its number. -/
def Carries (id : Int32) : Request → Prop
  | ⟨.channel, .call method args _⟩ =>
    method ∈ sessionMethods ∨ args ≠ [] → args.head? = some (.int id)
  | ⟨.manager, .call method args _⟩ => method = "releaseSensor" → args[1]? = some (.int id)
  | _ => True

/-! ## What starts and stops send -/

@[simp] theorem lastSent_nil (setting : Setting) : lastSent setting [] = none := rfl

theorem lastSent_append (setting : Setting) (log more : List Request) :
    lastSent setting (log ++ more) = (lastSent setting more).or (lastSent setting log) := by
  rw [lastSent, List.filterMap_append, List.getLast?_append]
  rfl

/-- A start sends every setting as it is wanted, but for one that it leaves out. -/
theorem lastSent_start (setting : Setting) (id : Int32) (desired : Desired) :
    lastSent setting (start id desired) =
      if setting = .standbyOverride ∧ desired.standbyOverride = false then none
      else some (setting.wanted desired) := by
  cases setting <;> cases wanted : desired.standbyOverride <;>
    simp [lastSent, start, wanted, sent?, Setting.method, Setting.wanted, call, setInterval,
      setBufferInterval, setBufferSize, setStandbyOverride]

theorem lastSent_stop (setting : Setting) (id : Int32) :
    lastSent setting (stop id) =
      match setting with
      | .interval => some (.int 0)
      | .standbyOverride => some (.bool false)
      | _ => none := by
  cases setting <;> rfl

theorem carries_start (id : Int32) (desired : Desired) :
    ∀ request ∈ start id desired, request.Carries id := by
  cases wanted : desired.standbyOverride <;>
    simp [start, wanted, Carries, call, setInterval, setBufferInterval, setBufferSize,
      setStandbyOverride]

theorem carries_stop (id : Int32) : ∀ request ∈ stop id, request.Carries id := by
  simp [stop, Carries, call, setInterval, setStandbyOverride]

end Request

namespace Op

theorem wanted_of_setting?_ne {op : Op} {setting : Setting} (other : op.setting? ≠ some setting)
    (before : Desired) : setting.wanted (op.wanted before) = setting.wanted before := by
  cases op <;> cases setting <;> first | rfl | exact absurd rfl other

theorem running_of_isPlain {op : Op} (plain : op.isPlain = true) (unstarted : op ≠ .start)
    (unstopped : op ≠ .stop) (before : Bool) : op.running before = before := by
  cases op <;> first | rfl | contradiction

end Op

namespace Session

variable {σ : Type} {s : Session σ}

/-- What the daemon was last sent as a setting. -/
def sent (s : Session σ) (setting : Setting) : Arg :=
  (Request.lastSent setting s.talk.log).getD setting.unsent

/-- What a plain operation sends as a setting. -/
theorem lastSent_requests (s : Session σ) {op : Op} (plain : op.isPlain = true)
    (setting : Setting) :
    Request.lastSent setting (s.requests op) =
      if op = .start then
        if s.running then none else Request.lastSent setting (Request.start s.id s.desired)
      else if op = .stop then
        if s.running then Request.lastSent setting (Request.stop s.id) else none
      else if op.setting? = some setting ∧ setting.sentWhile s.running = true then
        some (setting.wanted (op.wanted s.desired))
      else none := by
  cases op with
  | start | stop => cases running : s.running <;> simp [requests, running]
  -- Whether a setter sends anything is what sentWhile says of its setting.
  | setInterval value | setBufferInterval value | setBufferSize value | setStandbyOverride value =>
    cases setting <;> cases running : s.running <;> simp only [requests, running] <;> rfl
  | interval | bufferInterval | bufferSize | standbyOverride =>
    cases running : s.running <;> simp only [requests, running] <;> rfl
  | release =>
    cases released : s.released <;> simp only [requests, released] <;> rfl
  | errorCode | errorString =>
    cases set : s.error.isSet <;> simp only [requests, set] <;> rfl
  | setDataRangeIndex index =>
    simp only [requests, selectRequests]
    split <;> cases setting <;> rfl
  | requestDataRange range => cases setting <;> rfl
  | startWith _ | stopWith _ => contradiction
  | sendInterval _ _ | sendBufferInterval _ _ => contradiction
  | sendBufferSize _ _ | sendStandbyOverride _ _ => contradiction
  | _ => rfl

theorem sent_perform (s : Session σ) (op : Op) (setting : Setting) :
    (s.perform op).2.sent setting =
      (Request.lastSent setting (s.requests op)).getD (s.sent setting) := by
  rw [sent, talk_perform, Conversation.log_after, Request.lastSent_append, Option.getD_or, sent]

/-- A start that takes effect sends all that is wanted, unless it is not to stay on. -/
theorem sent_start (s : Session σ) (setting : Setting) :
    (s.perform .start).2.sent setting =
      if s.running = true ∨ (setting = .standbyOverride ∧ s.desired.standbyOverride = false) then
        s.sent setting
      else setting.wanted s.desired := by
  rw [sent_perform, lastSent_requests s rfl, if_pos rfl, Request.lastSent_start]
  cases running : s.running with
  | true => simp
  | false =>
    -- The one setting that a start may leave out keeps what was sent before.
    by_cases left : setting = .standbyOverride ∧ s.desired.standbyOverride = false <;> simp [left]

/-- A stop that takes effect sends that there is no interval and no staying on. -/
theorem sent_stop (s : Session σ) (setting : Setting) :
    (s.perform .stop).2.sent setting =
      if s.running then
        match setting with
        | .interval => .int 0
        | .standbyOverride => .bool false
        | _ => s.sent setting
      else s.sent setting := by
  rw [sent_perform, lastSent_requests s rfl, if_neg nofun, if_pos rfl, Request.lastSent_stop]
  cases s.running <;> cases setting <;> rfl

/-- Any other plain operation sends at most the setting that it wants otherwise. -/
theorem sent_set (s : Session σ) {op : Op} (plain : op.isPlain = true) (unstarted : op ≠ .start)
    (unstopped : op ≠ .stop) (setting : Setting) :
    (s.perform op).2.sent setting =
      if op.setting? = some setting ∧ setting.sentWhile s.running = true then
        setting.wanted (op.wanted s.desired)
      else s.sent setting := by
  rw [sent_perform, lastSent_requests s plain, if_neg unstarted, if_neg unstopped]
  split <;> rfl

/-- Every request that a plain operation makes for a session is under the session's number. -/
theorem carries_requests (s : Session σ) {op : Op} (plain : op.isPlain = true) :
    ∀ request ∈ s.requests op, request.Carries s.id := by
  cases op with
  | start =>
    cases running : s.running with
    | true => simp [requests, running]
    | false => simpa [requests, running] using Request.carries_start s.id s.desired
  | stop =>
    cases running : s.running with
    | true => simpa [requests, running] using Request.carries_stop s.id
    | false => simp [requests, running]
  | setInterval value | setBufferInterval value | setBufferSize value | setStandbyOverride value =>
    cases running : s.running <;>
      simp [requests, running, Request.Carries, Request.setInterval, Request.setBufferInterval,
        Request.setBufferSize, Request.setStandbyOverride, Request.call]
  | interval | bufferInterval | bufferSize | standbyOverride =>
    cases running : s.running <;> simp [requests, running, Request.Carries, Request.property]
  | release =>
    cases released : s.released <;>
      simp [requests, released, releaseRequests, Request.Carries, Request.property]
  | errorCode | errorString =>
    cases set : s.error.isSet <;> simp [requests, set, Request.Carries, Request.property]
  | setDataRangeIndex index =>
    simp only [requests, selectRequests]
    split <;> simp [Request.Carries, Request.call, Request.sessionMethods]
  | startWith _ | stopWith _ => contradiction
  | sendInterval _ _ | sendBufferInterval _ _ => contradiction
  | sendBufferSize _ _ | sendStandbyOverride _ _ => contradiction
  | _ => simp [requests, Request.Carries, Request.call, Request.property, Request.sessionMethods]

/-! ## What plain events keep -/

/-- The daemon was last sent what the session takes it to go by. That the sensor shall stay on is
in force while the session runs, and while it is stopped if it is not wanted. -/
structure Mirrored (s : Session σ) : Prop where
  interval : s.sent .interval = .int (if s.running then s.desired.interval else 0)
  standbyOverride : s.running = true ∨ s.desired.standbyOverride = false →
    s.sent .standbyOverride = .bool s.desired.standbyOverride

theorem Mirrored.start (mirrored : s.Mirrored) : (s.perform .start).2.Mirrored := by
  have desired : (s.perform .start).2.desired = s.desired := (s.perform_effect .start).desired
  have started : (s.perform .start).2.running = true := (s.perform_effect .start).running
  constructor
  · rw [sent_start, started, desired]
    cases running : s.running with
    | true => simpa [running] using mirrored.interval
    | false => rfl
  · intro _
    rw [sent_start, desired]
    cases running : s.running with
    | true => simpa using mirrored.standbyOverride (.inl running)
    | false =>
      -- What a start leaves out is false, and was false on the daemon's side all along.
      cases wanted : s.desired.standbyOverride with
      | true => simp [wanted, Setting.wanted]
      | false => simpa [wanted] using mirrored.standbyOverride (.inr wanted)

theorem Mirrored.stop (mirrored : s.Mirrored) : (s.perform .stop).2.Mirrored := by
  have desired : (s.perform .stop).2.desired = s.desired := (s.perform_effect .stop).desired
  have stopped : (s.perform .stop).2.running = false := (s.perform_effect .stop).running
  constructor
  · rw [sent_stop, stopped]
    cases running : s.running with
    | true => rfl
    | false => simpa [running] using mirrored.interval
  · rw [sent_stop, stopped, desired]
    rintro (⟨⟨⟩⟩ | unwanted)
    cases running : s.running with
    | true => simp [unwanted]
    | false => simpa using mirrored.standbyOverride (.inr unwanted)

theorem Mirrored.set {op : Op} (mirrored : s.Mirrored) (plain : op.isPlain = true)
    (unstarted : op ≠ .start) (unstopped : op ≠ .stop) : (s.perform op).2.Mirrored := by
  have effect := s.perform_effect op
  have running := effect.running.trans (Op.running_of_isPlain plain unstarted unstopped s.running)
  constructor
  · rw [s.sent_set plain unstarted unstopped, running, effect.desired]
    -- A new interval is sent while running, and left for the next start while stopped.
    by_cases sets : op.setting? = some .interval
    · cases running : s.running with
      | true => rw [if_pos ⟨sets, rfl⟩]; rfl
      | false => simpa [running, Setting.sentWhile] using mirrored.interval
    · have kept : (op.wanted s.desired).interval = s.desired.interval :=
        Arg.int.inj (Op.wanted_of_setting?_ne sets s.desired)
      rw [if_neg fun both => sets both.1, kept, mirrored.interval]
  · rw [s.sent_set plain unstarted unstopped, running, effect.desired]
    -- A new wish to stay on is sent at once, running or not.
    by_cases sets : op.setting? = some .standbyOverride
    · intro _
      rw [if_pos ⟨sets, rfl⟩]
      rfl
    · have kept : (op.wanted s.desired).standbyOverride = s.desired.standbyOverride :=
        Arg.bool.inj (Op.wanted_of_setting?_ne sets s.desired)
      rw [if_neg fun both => sets both.1, kept]
      exact mirrored.standbyOverride

theorem Mirrored.step {e : Event} (mirrored : s.Mirrored) (plain : e.isPlain = true) :
    (s.step e).Mirrored := by
  cases e with
  | op op =>
    by_cases started : op = .start
    · subst started
      exact mirrored.start
    by_cases stopped : op = .stop
    · subst stopped
      exact mirrored.stop
    · exact mirrored.set plain started stopped
  | _ => exact ⟨mirrored.interval, mirrored.standbyOverride⟩

/-- What was last sent about the buffer is what is wanted, and stays so unless something else is
wanted while the session runs. -/
theorem sent_buffer_step {e : Event} {setting : Setting} (plain : e.isPlain = true)
    (buffering : setting.isBuffering = true)
    (untouched : ∀ op, e = .op op → op.setting? = some setting → s.running = false)
    (agree : s.sent setting = setting.wanted s.desired) :
    (s.step e).sent setting = setting.wanted (s.step e).desired := by
  cases e with
  | op op =>
    change (s.perform op).2.sent setting = setting.wanted (s.perform op).2.desired
    rw [(s.perform_effect op).desired]
    -- A start sends what is wanted, a stop sends nothing of the buffer, and a setter sends while
    -- stopped; while running it is excluded.
    by_cases started : op = .start
    · subst started
      rw [sent_start, agree, ite_self]
      rfl
    by_cases stopped : op = .stop
    · subst stopped
      refine Eq.trans ?_ agree
      rw [sent_stop]
      cases setting <;> first | contradiction | exact ite_self _
    rw [s.sent_set plain started stopped]
    by_cases sets : op.setting? = some setting
    · have sentNow : setting.sentWhile s.running = true := by
        rw [untouched op rfl sets]
        cases setting <;> first | contradiction | rfl
      rw [if_pos ⟨sets, sentNow⟩]
    · rw [if_neg fun both => sets both.1, Op.wanted_of_setting?_ne sets, agree]
  | _ => exact agree

/-- A start that takes effect sends what is wanted of the buffer. -/
theorem sent_buffer_start {setting : Setting} (stopped : s.running = false)
    (buffering : setting.isBuffering = true) :
    (s.step (.op .start)).sent setting = setting.wanted (s.step (.op .start)).desired := by
  have notStandby : setting ≠ .standbyOverride := by rintro ⟨⟩; contradiction
  change (s.perform .start).2.sent setting = setting.wanted (s.perform .start).2.desired
  rw [(s.perform_effect .start).desired, sent_start, if_neg (by simp [stopped, notStandby])]
  rfl

theorem carries_step {e : Event} {id : Int32} (plain : e.isPlain = true) (own : s.id = id)
    (carries : ∀ request ∈ s.talk.log, request.Carries id) :
    ∀ request ∈ (s.step e).talk.log, request.Carries id := by
  rw [log_step, List.forall_mem_append]
  refine ⟨carries, ?_⟩
  cases e with
  | op op => exact own ▸ s.carries_requests plain
  | _ => simp [requestsOn]

/-! ## What runs of plain events come to -/

/-- Whoever looks after these events finds that all that is wanted was just sent, by a start that
took effect, or that nothing has happened yet. -/
def JustSent (s : Session σ) (before : List Event) : Prop :=
  before = [] ∨
    ∃ earlier, before = earlier ++ [.op .start] ∧ (s.run earlier).running = false

/-- The setting is wanted otherwise only while the session is stopped. -/
def SetStopped (s : Session σ) (setting : Setting) (events : List Event) : Prop :=
  ∀ before op after, events = before ++ .op op :: after → op.setting? = some setting →
    (s.run before).running = false

theorem sent_buffer_run {setting : Setting} {events : List Event}
    (plain : ∀ e ∈ events, e.isPlain = true) (buffering : setting.isBuffering = true)
    (untouched : s.SetStopped setting events) (agree : s.sent setting = setting.wanted s.desired) :
    (s.run events).sent setting = setting.wanted (s.run events).desired := by
  induction events generalizing s with
  | nil => exact agree
  | cons e events ih =>
    rw [List.forall_mem_cons] at plain
    -- What holds of the whole run holds of its first event and of the rest.
    refine ih plain.2 ?_ (sent_buffer_step plain.1 buffering ?_ agree)
    · intro before op after split sets
      exact untouched (e :: before) op after (by rw [split, List.cons_append]) sets
    · rintro op rfl sets
      exact untouched [] op events rfl sets

end Session

namespace Opened

variable {σ : Type} {offered : Option Link} {s : Session σ}

theorem sent (opened : Opened offered s) (setting : Setting) :
    s.sent setting = setting.wanted s.desired := by
  rw [Session.sent, opened.fresh.log, opened.fresh.desired]
  cases setting <;> rfl

theorem mirrored (opened : Opened offered s) : s.Mirrored where
  interval := by
    rw [opened.sent, opened.fresh.desired]
    exact congrArg Arg.int (ite_self _).symm
  standbyOverride _ := opened.sent .standbyOverride

/-- What was just sent, or wanted from the beginning, is what is wanted. -/
theorem sent_of_justSent (opened : Opened offered s) {before : List Event} {setting : Setting}
    (just : s.JustSent before) (buffering : setting.isBuffering = true) :
    (s.run before).sent setting = setting.wanted (s.run before).desired := by
  rcases just with rfl | ⟨earlier, rfl, stopped⟩
  · exact opened.sent setting
  · rw [Session.run_snoc]
    exact Session.sent_buffer_start stopped buffering

/-- After any run of plain events, whatever was answered on the bus: the daemon was last sent the
wanted interval if the session runs, and no interval if it is stopped; if it runs, whether to stay
on as wanted; each setting of the buffer as wanted, unless it was wanted otherwise since the last
start that took effect and while the session was running; and every call for a session was for
this one. -/
theorem daemon_mirrors (opened : Opened offered s) {events : List Event}
    (plain : ∀ e ∈ events, e.isPlain = true) :
    (s.run events).sent .interval =
        .int (if (s.run events).running then (s.run events).desired.interval else 0) ∧
      ((s.run events).running = true →
        (s.run events).sent .standbyOverride = .bool (s.run events).desired.standbyOverride) ∧
      (∀ setting before after, setting.isBuffering = true → events = before ++ after →
        s.JustSent before → (s.run before).SetStopped setting after →
        (s.run events).sent setting = setting.wanted (s.run events).desired) ∧
      ∀ request ∈ (s.run events).talk.log, request.Carries s.id := by
  have kept : (s.run events).Mirrored :=
    Session.run_induction (A := fun e => e.isPlain = true) (P := Session.Mirrored)
      (fun _ _ plain mirrored => mirrored.step plain) plain opened.mirrored
  have own : (s.run events).id = s.id ∧ ∀ request ∈ (s.run events).talk.log, request.Carries s.id :=
    Session.run_induction (A := fun e => e.isPlain = true)
      (P := fun t => t.id = s.id ∧ ∀ request ∈ t.talk.log, request.Carries s.id)
      (fun t e plain held => ⟨(t.id_step e).trans held.1, Session.carries_step plain held.1 held.2⟩)
      plain ⟨rfl, by simp [opened.fresh.log]⟩
  refine ⟨kept.interval, fun running => kept.standbyOverride (.inl running), ?_, own.2⟩
  rintro setting before after buffering rfl just untouched
  rw [Session.run_append]
  rw [List.forall_mem_append] at plain
  exact Session.sent_buffer_run plain.2 buffering untouched
    (opened.sent_of_justSent just buffering)

/-- The size of the buffer is sent with a start and left alone by what is wanted otherwise. -/
theorem daemon_mirrors_buffer_size :
    ((Session.acknowledged 4).run
      [.op (.setBufferSize 5), .op .start, .op (.setInterval 20)]).sent .bufferSize =
        .uint 5 := by
  have plain : ∀ e ∈ [Event.op (.setBufferSize 5), .op .start, .op (.setInterval 20)],
      e.isPlain = true := by decide
  have untouched : ((Session.acknowledged 4).run [.op (.setBufferSize 5), .op .start]).SetStopped
      .bufferSize [.op (.setInterval 20)] := by
    rintro (_ | ⟨e, before⟩) op after split sets
    · cases split
      cases sets
    · simp at split
  exact ((opened_acknowledged 4).daemon_mirrors plain).2.2.1 .bufferSize
    [.op (.setBufferSize 5), .op .start] [.op (.setInterval 20)] rfl rfl
    (.inr ⟨[.op (.setBufferSize 5)], rfl, rfl⟩) untouched

end Opened

end SensorClient
