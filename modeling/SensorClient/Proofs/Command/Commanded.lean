import SensorClient.Command.Run
import SensorClient.Proofs.Command.Course
import SensorClient.Proofs.Command.Grant
import SensorClient.Proofs.Session.Lifecycle

/-!
# Sessions of commands

A command that opens a session was granted it. Until it closes the session, it makes only requests
of its sensor, all of which can be sent, and neither asks for another session nor hands this one
back. That holds when the session is opened, every event but a release keeps it, and so does every
run that a command puts its session through.

## Main definitions

* `Request.isMinor`: what is asked of a sensor in between
* `Aim`, `Command.aim?`: the service, the sensor and the interface that a command is after
* `Aim.reachesChannel`: whether the channel is found and provided
* `Commanded`: a session that a command has opened and not yet closed

## Main results

* `Request.isMinor_requests`: no operation but a release makes other requests
* `commanded_of_openSession`: a session that is opened is commanded
* `Commanded.leadsTo`: it stays so until it is closed
* `Commanded.grants_iff`: it is the only session that was granted
-/

namespace SensorClient

/-! ## Minor requests -/

/-- Whether a request leaves the wire whole, and asks neither for a session nor for its end. -/
def Request.isMinor (request : Request) : Bool :=
  !request.inquiry.cutsWire && !request.inquiry.calls "requestSensor" &&
    !request.inquiry.calls "releaseSensor"

theorem Request.isMinor_iff {request : Request} :
    request.isMinor = true ↔ request.inquiry.cutsWire = false ∧
      request.inquiry.calls "requestSensor" = false ∧
      request.inquiry.calls "releaseSensor" = false := by
  simp [isMinor, and_assoc]

/-- No operation but a release asks for the end of a session. -/
theorem Request.isMinor_requests {σ : Type} (s : Session σ) {op : Op} (other : op ≠ .release) :
    ∀ request ∈ s.requests op, request.isMinor = true := by
  rw [← List.all_eq_true]
  cases op with
  | release => exact absurd rfl other
  | setDataRangeIndex index =>
    dsimp only [Session.requests, Session.selectRequests]
    split <;> rfl
  | start | startWith =>
    dsimp only [Session.requests, Request.start]
    cases s.running <;> cases s.desired.standbyOverride <;> rfl
  | stop | stopWith | setInterval | setBufferInterval | setBufferSize | interval | bufferInterval
  | bufferSize | standbyOverride =>
    dsimp only [Session.requests]
    cases s.running <;> rfl
  | errorCode | errorString =>
    dsimp only [Session.requests]
    cases s.error.isSet <;> rfl
  | _ => rfl

/-! ## What a command is after -/

/-- The sensor that a command is after, and where. -/
structure Aim where
  service : Service
  sensor : String
  interface : String
deriving DecidableEq, Repr

/-- What a command is after, if it is after a sensor and its texts make sense. -/
def Command.aim? : Command → Option Aim
  | .info location sensor =>
    match location.service?, sensor.interface? with
    | .ok service, .ok interface => some ⟨service, sensor.name, interface⟩
    | _, _ => none
  | .stream location sensor o =>
    (o.plan? location sensor).toOption.map fun plan => ⟨plan.service, sensor.name, plan.interface⟩
  | .version _ | .doctor _ => none

namespace Aim

/-- The objects that a command talks to. -/
def stations (aim : Aim) (host : Host) : Party → Except String Station :=
  SensorClient.stations host aim.service aim.sensor aim.interface

/-- The talk with them before it begins. -/
def talk (aim : Aim) (host : Host) : Conversation :=
  controlTalk host aim.service aim.sensor aim.interface

theorem talk_eq (aim : Aim) (host : Host) :
    aim.talk host = .begin (.onWire (host.peer aim.service) (aim.stations host)) := rfl

/-- Whether the channel of the sensor is found, and somebody provides the service when it is looked
up. The channel is looked up after the manager. -/
def reachesChannel (aim : Aim) (host : Host) : Bool :=
  match host.station aim.service (Manager.channelPath aim.sensor) aim.interface 1 with
  | .ok station => station.owned
  | .error _ => false

end Aim

section

variable {σ : Type} {host : Host} {aim : Aim} {s t : Session σ} {decoder : Decoder σ} {sink : σ}

theorem Host.station_eq_ok {service : Service} {path interface : String} {asked : Nat}
    {station : Station} (found : host.station service path interface asked = .ok station) :
    ∃ owned, station = ⟨service.name, path, interface, owned⟩ := by
  unfold Host.station at found
  -- It is not found on a bus out of reach, nor under a malformed name of any sort.
  split at found
  · cases found
  · unfold Station.find at found
    split at found
    · cases found
    · split at found
      · cases found
      · split at found
        · cases found
        · exact ⟨_, (Except.ok.inj found).symm⟩

theorem Aim.station_manager {station : Station} (found : aim.stations host .manager = .ok station) :
    ∃ owned, station = ⟨aim.service.name, Manager.path, Manager.interface, owned⟩ := by
  dsimp only [stations, SensorClient.stations] at found
  cases looked : host.station aim.service Manager.path Manager.interface 0 with
  | error e =>
    rw [looked] at found
    cases found
  | ok station =>
    rw [looked] at found
    cases found
    exact Host.station_eq_ok looked

theorem Aim.isValid_channel : (aim.talk host).bus.isValid .channel = aim.reachesChannel host := by
  dsimp only [talk, controlTalk, Conversation.begin, Bus.onWire, SensorClient.stations,
    reachesChannel]
  cases host.station aim.service (Manager.channelPath aim.sensor) aim.interface 1 <;> rfl

/-! ## A session between its opening and its close -/

/-- A session that a command has opened and not yet closed: the manager granted it, it is still
held, and nothing but minor requests were made since. -/
structure Commanded (host : Host) (aim : Aim) (s : Session σ) : Prop where
  found : ∃ station, aim.stations host .manager = .ok station
  sendable : Name.isSendable aim.sensor = true
  replied : (Manager.requestSensor ((aim.talk host).after [.load aim.sensor]) host.process
    aim.sensor).1 = .ok s.id
  valid : 0 ≤ s.id
  process : s.process = host.process
  held : s.released = false
  talk : ∃ asked, (∀ request ∈ asked, request.isMinor = true) ∧
    s.talk = (aim.talk host).after (.load aim.sensor :: .grant host.process aim.sensor :: asked)

theorem Commanded.step (commanded : Commanded host aim s) {e : Event} (other : e ≠ .op .release) :
    Commanded host aim (s.step e) := by
  obtain ⟨asked, minor, talk⟩ := commanded.talk
  refine ⟨commanded.found, commanded.sendable, ?_, ?_, ?_, ?_, asked ++ s.requestsOn e, ?_, ?_⟩
  · rw [s.id_step]
    exact commanded.replied
  · rw [s.id_step]
    exact commanded.valid
  · cases e with
    | op op => exact (s.perform_effect op).process.trans commanded.process
    | _ => exact commanded.process
  · rw [s.released_step, commanded.held, Bool.false_or, beq_eq_false_iff_ne]
    exact other
  · -- Only operations make requests, and only a release makes others than minor ones.
    rw [List.forall_mem_append]
    refine ⟨minor, ?_⟩
    cases e with
    | op op => exact Request.isMinor_requests s fun release => other (congrArg Event.op release)
    | _ => exact List.forall_mem_nil _
  · rw [s.talk_step, talk, Conversation.after_after]
    rfl

/-- A session stays commanded until it is closed. -/
theorem Commanded.leadsTo (commanded : Commanded host aim s) (reached : s.LeadsTo t) :
    Commanded host aim t := by
  obtain ⟨events, held, rfl⟩ := reached
  refine Session.run_induction (A := (· ≠ .op .release))
    (fun _ _ other commanded => commanded.step other) ?_ commanded
  rintro e occurs rfl
  exact held occurs

theorem Commanded.isValid (commanded : Commanded host aim s) :
    s.isValid = aim.reachesChannel host := by
  obtain ⟨asked, -, talk⟩ := commanded.talk
  rw [Session.isValid, talk]
  exact Aim.isValid_channel

/-- The sessions granted in the talk of a commanded session: only that one. -/
theorem Commanded.grants_iff (commanded : Commanded host aim s) {more : List Request} {id : Int32}
    (whole : ∀ request ∈ more, request.inquiry.cutsWire = false)
    (other : ∀ request ∈ more, request.inquiry.calls "requestSensor" = false) :
    (host.peer aim.service).Grants (messages (aim.stations host)
      (.load aim.sensor :: .grant host.process aim.sensor :: more)) id ↔ id = s.id := by
  obtain ⟨station, found⟩ := commanded.found
  refine (grants_messages_iff (aim.talk_eq host) found commanded.sendable whole other).trans ?_
  rw [commanded.replied]
  constructor
  · rintro ⟨replied, -⟩
    exact (Except.ok.inj replied).symm
  · rintro rfl
    exact ⟨rfl, commanded.valid⟩

/-! ## Opening -/

theorem Aim.openSession_eq (interface : decoder.interface = aim.interface) :
    openSession host aim.service aim.sensor decoder sink =
      match grantSession aim.service host.process aim.sensor (aim.talk host) with
      | (.error f, talk) => .error (f, talk)
      | (.ok id, talk) =>
        .ok (Session.overPath (Manager.channelPath aim.sensor) talk aim.service.socket
          host.listening decoder sink id host.process) := by
  rw [talk, ← interface]
  rfl

/-- A session that is opened was granted, and is commanded. -/
theorem commanded_of_openSession (aim : Aim) (interface : decoder.interface = aim.interface)
    (opened : openSession host aim.service aim.sensor decoder sink = .ok s) :
    Commanded host aim s := by
  have came := granting_grantSession aim.service host.process aim.sensor (aim.talk host)
  rw [Aim.openSession_eq interface] at opened
  generalize grantSession aim.service host.process aim.sensor (aim.talk host) = result
    at came opened
  cases came with
  | unreachable | unloaded | refused => cases opened
  | granted id loaded granted valid =>
    obtain ⟨station, found, sendable⟩ :=
      sendable_of_loaded (congrArg Conversation.bus (aim.talk_eq host)) loaded
    simp only [Session.overPath, Session.assemble_eq, Except.ok.injEq] at opened
    subst opened
    exact ⟨⟨station, found⟩, sendable, granted, valid, rfl, rfl, [], List.forall_mem_nil _, rfl⟩

end

end SensorClient
