import SensorClient.Proofs.Command.Commanded
import SensorClient.Proofs.Session.Replies
import SensorClient.Wire.Script

/-!
# Sessions are handed back

A command that was granted a session hands it back with the close of the session, whichever way it
ends. The manager granted it, but whether it is handed back is a matter of the channel: if that
could not be looked up, or nobody provided the service by then, the manager hears nothing more.

## Main definitions

* `Message.handBack`: the message that hands a session back
* `Execution.HandsBack`: what becomes of the session that an execution is granted

## Main results

* `Commanded.handedBack_close`: what the close of a session hands back
* `Command.hands_back`: every execution hands its session back, if it reaches the channel
* `unreached_channel_keeps_session`: one that is granted a session and does not hand it back
-/

namespace SensorClient

/-- The message that hands a session back to the manager; the sensor is called by some name. -/
def Message.handBack (service name : String) (id : Int32) (process : Int64) : Message :=
  ⟨service, Manager.path, Manager.interface,
    .call "releaseSensor" [.str name, .int32 id, .int64 process]⟩

namespace Execution

/-- The calls that hand a session back. -/
def handedBack (execution : Execution) : List Message :=
  execution.messages.filter (Message.calls "releaseSensor")

/-- What becomes of the session that an execution is granted. -/
structure HandsBack (host : Host) (aim : Aim) (execution : Execution) : Prop where
  /-- A session that is granted is handed back once, however the execution ends. -/
  granted : ∀ id, (host.peer aim.service).Grants execution.messages id →
    aim.reachesChannel host = true → execution.ending ≠ .endless →
    ∃ name, execution.handedBack = [.handBack aim.service.name name id host.process]
  /-- Without a channel nothing is handed back. -/
  unreached : aim.reachesChannel host = false → execution.handedBack = []
  /-- What was not granted is not handed back. -/
  ungranted : (∀ id, ¬ (host.peer aim.service).Grants execution.messages id) →
    execution.handedBack = []

end Execution

section

variable {σ : Type} {host : Host} {aim : Aim} {s t : Session σ} {decoder : Decoder σ} {sink : σ}

/-- What a talk with minor requests hands back is in its end. -/
theorem handedBack_messages (stations : Party → Except String Station) (process : Int64)
    {sensor : String} {asked last : List Request} (sendable : Name.isSendable sensor = true)
    (minor : ∀ request ∈ asked, request.isMinor = true)
    (whole : ∀ request ∈ last, request.inquiry.cutsWire = false) :
    (messages stations (.load sensor :: .grant process sensor :: (asked ++ last))).filter
      (Message.calls "releaseSensor") =
      (last.filter fun request => request.inquiry.calls "releaseSensor").filterMap
        (Request.message? stations) := by
  have silent : asked.filter (fun request => request.inquiry.calls "releaseSensor") = [] := by
    rw [List.filter_eq_nil_iff]
    intro request asked
    simp [(Request.isMinor_iff.mp (minor request asked)).2.2]
  rw [filter_calls_messages]
  · rw [List.filter_cons_of_neg (by simp), List.filter_cons_of_neg (by simp), List.filter_append,
      silent, List.nil_append]
  · rintro request (_ | ⟨_, _ | ⟨_, later⟩⟩)
    · exact cutsWire_load sendable
    · exact cutsWire_grant sendable
    · rcases List.mem_append.mp later with asked | last
      · exact (Request.isMinor_iff.mp (minor request asked)).1
      · exact whole request last

/-- The close of a session that is still held hands it back, if the daemon can be reached. -/
theorem Session.talk_close (s : Session σ) (held : s.released = false) :
    s.close.talk = s.talk.after (if s.isValid then s.releaseRequests else []) := by
  unfold close
  cases s.isValid with
  | false =>
    rw [if_neg (by simp), if_neg (by simp), Conversation.after_nil]
    dsimp only
    split <;> rfl
  | true =>
    rw [if_pos rfl, if_pos rfl, s.release_snd held]
    dsimp only
    split <;> rfl

/-- The name under which a commanded session is handed back can be sent. -/
theorem Commanded.releaseRequests (commanded : Commanded host aim s) :
    ∃ name, Name.isSendable name = true ∧
      s.releaseRequests = [.property "id", .handBack name s.id s.process] := by
  obtain ⟨asked, -, talk⟩ := commanded.talk
  have wired : s.talk.bus = .onWire (host.peer aim.service) (aim.stations host) := by
    rw [talk]
    rfl
  exact ⟨_, Conversation.isSendable_property wired .channel "id", rfl⟩

theorem Commanded.message?_handBack (commanded : Commanded host aim s) {name : String}
    (sendable : Name.isSendable name = true) :
    (Request.handBack name s.id s.process).message? (aim.stations host) =
      some (.handBack aim.service.name name s.id host.process) := by
  obtain ⟨station, found⟩ := commanded.found
  obtain ⟨owned, rfl⟩ := Aim.station_manager found
  rw [commanded.process]
  exact Request.message?_call found _ (by decide) rfl (by simpa [Datum.isSendable] using sendable)

/-- The requests with which a session is handed back leave the wire whole and ask for no other. -/
theorem Request.whole_handBack {name : String} (sendable : Name.isSendable name = true) (id : Int32)
    (process : Int64) :
    ∀ request ∈ [property "id", handBack name id process],
      request.inquiry.cutsWire = false ∧ request.inquiry.calls "requestSensor" = false := by
  rintro request (_ | ⟨_, _ | ⟨_, ⟨⟩⟩⟩)
  · decide
  · refine ⟨?_, rfl⟩
    simp [handBack, Inquiry.cutsWire, body?, Datum.ofArg, Datum.isSendable, sendable]

/-- What was asked when a commanded session has been closed. -/
theorem Commanded.log_close (commanded : Commanded host aim s) :
    ∃ asked name, (∀ request ∈ asked, request.isMinor = true) ∧ Name.isSendable name = true ∧
      s.close.talk.log = .load aim.sensor :: .grant host.process aim.sensor ::
        (asked ++ if aim.reachesChannel host then
          [.property "id", .handBack name s.id s.process] else []) := by
  obtain ⟨asked, minor, talk⟩ := commanded.talk
  obtain ⟨name, sendable, requests⟩ := commanded.releaseRequests
  refine ⟨asked, name, minor, sendable, ?_⟩
  rw [s.talk_close commanded.held, commanded.isValid, talk, Conversation.after_after, requests]
  rfl

/-- The close of a commanded session hands it back, if the channel was reached. -/
theorem Commanded.handedBack_close (commanded : Commanded host aim s) :
    ∃ name, (messages (aim.stations host) s.close.talk.log).filter (Message.calls "releaseSensor") =
      if aim.reachesChannel host then [.handBack aim.service.name name s.id host.process]
      else [] := by
  obtain ⟨asked, name, minor, sendable, log⟩ := commanded.log_close
  refine ⟨name, ?_⟩
  have whole := Request.whole_handBack sendable s.id s.process
  rw [log, handedBack_messages _ _ commanded.sendable minor]
  · split
    · have written := commanded.message?_handBack sendable
      rw [List.filter_cons_of_neg (by decide), List.filter_cons_of_pos (by rfl), List.filter_nil,
        List.filterMap_cons_some written, List.filterMap_nil]
    · rfl
  · split
    · exact fun request asked => (whole request asked).1
    · exact List.forall_mem_nil _

theorem Commanded.grants_close (commanded : Commanded host aim s) (id : Int32) :
    (host.peer aim.service).Grants (messages (aim.stations host) s.close.talk.log) id ↔
      id = s.id := by
  obtain ⟨asked, name, minor, sendable, log⟩ := commanded.log_close
  have later : ∀ request ∈ asked ++ if aim.reachesChannel host then
      [.property "id", .handBack name s.id s.process] else [],
      request.inquiry.cutsWire = false ∧ request.inquiry.calls "requestSensor" = false := by
    rw [List.forall_mem_append]
    constructor
    · intro request asked
      have minor := Request.isMinor_iff.mp (minor request asked)
      exact ⟨minor.1, minor.2.1⟩
    · split
      · exact Request.whole_handBack sendable s.id s.process
      · exact List.forall_mem_nil _
  rw [log]
  exact commanded.grants_iff (fun request asked => (later request asked).1)
    fun request asked => (later request asked).2

/-- While a session is commanded, nothing is handed back. -/
theorem Commanded.handedBack (commanded : Commanded host aim s) :
    (messages (aim.stations host) s.talk.log).filter (Message.calls "releaseSensor") = [] := by
  obtain ⟨asked, minor, talk⟩ := commanded.talk
  have silent := handedBack_messages (aim.stations host) host.process commanded.sendable minor
    (List.forall_mem_nil _)
  rw [List.append_nil] at silent
  rw [talk]
  exact silent

/-- An execution that has opened a session hands it back, or goes on for ever. -/
theorem Commanded.handsBack (commanded : Commanded host aim s) {output : Bytes} {ending : Ending}
    {links : List Link}
    (ends : ending = .endless ∧ s.LeadsTo t ∨ ∃ u, s.LeadsTo u ∧ t = u.close) :
    Execution.HandsBack host aim
      ⟨output, ending, messages (aim.stations host) t.talk.log, links⟩ := by
  rcases ends with ⟨rfl, reached⟩ | ⟨u, reached, rfl⟩
  · -- It was never closed, so nothing was handed back; nor did the execution end.
    have silent := (commanded.leadsTo reached).handedBack
    exact ⟨fun _ _ _ endless => absurd rfl endless, fun _ => silent, fun _ => silent⟩
  · have later := commanded.leadsTo reached
    obtain ⟨name, handedBack⟩ := later.handedBack_close
    constructor
    · intro id granted reaches _
      rw [reaches, if_pos rfl] at handedBack
      rw [(later.grants_close id).mp granted]
      exact ⟨name, handedBack⟩
    · intro unreached
      rw [unreached] at handedBack
      exact handedBack
    · -- The session itself was granted.
      intro ungranted
      exact absurd ((later.grants_close u.id).mpr rfl) (ungranted u.id)

/-- Without a session, none was granted, and nothing is handed back. -/
theorem handsBack_of_refused (aim : Aim) {f : Failure} {talk : Conversation} {ending : Ending}
    (interface : decoder.interface = aim.interface)
    (refused : openSession host aim.service aim.sensor decoder sink = .error (f, talk)) :
    Execution.HandsBack host aim ⟨[], ending, messages (aim.stations host) talk.log, []⟩ := by
  rw [Aim.openSession_eq interface] at refused
  split at refused
  · next asked =>
    cases refused
    obtain ⟨ungranted, kept⟩ := not_grants_of_grantSession asked
    have silent : (messages (aim.stations host) talk.log).filter
        (Message.calls "releaseSensor") = [] := by
      rw [List.filter_eq_nil_iff]
      intro message sent
      rw [kept message sent]
      exact Bool.false_ne_true
    exact ⟨fun id granted => absurd granted (ungranted id), fun _ => silent, fun _ => silent⟩
  · cases refused

end

/-! ## The commands -/

/-- An execution that tells what is known of a sensor hands its session back. -/
theorem handsBack_runInfo (host : Host) (format : Format) (location : Location) (sensor : Sensor) :
    match (Command.info location sensor).aim? with
    | some aim => (runInfo host format location sensor).HandsBack host aim
    | none => (runInfo host format location sensor).messages = [] := by
  unfold runInfo
  dsimp only [Command.aim?]
  cases location.service? with
  | error f => rfl
  | ok service =>
    cases sensor.interface? with
    | error f => rfl
    | ok interface =>
      dsimp only [bind, Except.bind, pure, Except.pure]
      split
      · next refused => exact handsBack_of_refused ⟨service, sensor.name, interface⟩ rfl refused
      · next s opened =>
        have commanded := commanded_of_openSession ⟨service, sensor.name, interface⟩ rfl opened
        exact commanded.handsBack (.inr ⟨_, s.leadsTo_collectInfo sensor.name interface, rfl⟩)

theorem Printer.interface_decoder (p : Printer) (interface : String) (batch : Bool) :
    (p.decoder interface batch).interface = interface := by
  unfold decoder
  split <;> rfl

/-- An execution that streams hands its session back. -/
theorem handsBack_runStream (host : Host) (format : Format) (location : Location) (sensor : Sensor)
    (o : StreamOptions) :
    match (Command.stream location sensor o).aim? with
    | some aim => (runStream host format location sensor o).HandsBack host aim
    | none => (runStream host format location sensor o).messages = [] := by
  unfold runStream
  dsimp only [Command.aim?]
  cases o.plan? location sensor with
  | error f => rfl
  | ok plan =>
    dsimp only [Except.toOption, Option.map_some]
    have interface := Printer.interface_decoder ⟨sensor.name, o.layout, o.count, format⟩
      plan.interface o.batch
    split
    · next refused =>
      exact handsBack_of_refused ⟨plan.service, sensor.name, plan.interface⟩ interface refused
    · next s opened =>
      have commanded := commanded_of_openSession
        ⟨plan.service, sensor.name, plan.interface⟩ interface opened
      exact commanded.handsBack (streamSession_closes host o plan s)

/-- Every execution that is granted a session hands it back once before it ends, if it reaches the
channel of the sensor, and otherwise hands back nothing. An execution that is after no sensor sends
no message at all. -/
theorem Command.hands_back (host : Host) (format : Format) (command : Command) :
    match command.aim? with
    | some aim => (command.run host format).HandsBack host aim
    | none => (command.run host format).messages = [] := by
  cases command with
  | info location sensor => exact handsBack_runInfo host format location sensor
  | stream location sensor o => exact handsBack_runStream host format location sensor o
  | version extended => rfl
  | doctor location =>
    change (runDoctor host format location).messages = []
    unfold runDoctor
    split <;> rfl

/-! ## Granted and handed back, or not -/

/-- A manager that loads every plugin and grants session 7. -/
def Peer.lending : Peer :=
  .scripted ⟨[("loadPlugin", [.body (some (.bool true))]),
    ("requestSensor", [.body (some (.int32 7))])], []⟩

/-- A host with that manager, where the daemon acknowledges every session on the sample socket, and
the service has an owner some of the times that it is looked up. -/
def Host.lending (owned : Nat → Bool) : Host where
  exchange _ := .ok ⟨.lending, owned⟩
  file _ := .ok .socket
  listening _ := .ok (.fresh 0 [6])
  clock := ⟨0⟩
  process := 4242
  turns := []

/-- A question about the light sensor, at the interface that the client names. -/
def Command.lightInfo (interface : Option String) : Command :=
  .info ⟨"sensord.sock", Service.defaultName, .system, "5s"⟩ ⟨"alssensor", interface⟩

theorem Command.hands_back_light : ∃ name,
    ((Command.lightInfo none).run (.lending fun _ => true) .raw).handedBack =
      [.handBack Service.defaultName name 7 4242] := by
  have granted : Peer.lending.Grants
      ((Command.lightInfo none).run (.lending fun _ => true) .raw).messages 7 :=
    ⟨[_], _, _, rfl, rfl, rfl, by decide⟩
  exact (Command.hands_back (.lending fun _ => true) .raw (.lightInfo none)).granted 7 granted
    (by decide +kernel) (by decide +kernel)

/-- A session is granted and kept, and the command ends well, where the interface that the client
names is malformed, and where the owner of the service leaves between the grant and the look at the
channel. -/
theorem unreached_channel_keeps_session :
    let malformed := (Command.lightInfo (some "nodots")).run (.lending fun _ => true) .raw
    let unowned := (Command.lightInfo none).run (.lending (· == 0)) .raw
    (Peer.lending.Grants malformed.messages 7 ∧ malformed.ending = .exit .success ∧
        malformed.handedBack = []) ∧
      Peer.lending.Grants unowned.messages 7 ∧ unowned.ending = .exit .success ∧
        unowned.handedBack = [] := by
  refine ⟨⟨?_, rfl, ?_⟩, ?_, rfl, ?_⟩
  · exact ⟨[_], _, _, rfl, rfl, rfl, by decide⟩
  · decide +kernel
  · exact ⟨[_], _, _, rfl, rfl, rfl, by decide⟩
  · decide +kernel

end SensorClient
