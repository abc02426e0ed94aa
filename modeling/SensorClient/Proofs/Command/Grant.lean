import SensorClient.Command.Opening
import SensorClient.Proofs.Session.Requests
import SensorClient.Proofs.Wire.Sending

/-!
# Sessions that are granted

A command asks the manager for a session with at most two calls. It gets one exactly if the second
call is answered with a number that is not negative: what the client makes of the answer and what
was said on the wire come to the same.

## Main definitions

* `Peer.Grants`: among the messages is a call for a session that was answered with a number
* `Request.load`, `Request.grant`: the two calls
* `Granting`: what can come of them

## Main results

* `granting_grantSession`: nothing else comes of asking the manager
* `grants_messages_iff`: a session is granted on the wire exactly if the client reads its number
* `not_grants_of_grantSession`: without a session, none was granted, and none is handed back
-/

namespace SensorClient

/-- The other side grants a session: among the messages sent to it is a call for one, and it
answers with the number of the session. A negative number is a refusal. -/
def Peer.Grants (peer : Peer) (sent : List Message) (id : Int32) : Prop :=
  ∃ before request after, sent = before ++ request :: after ∧
    request.calls "requestSensor" = true ∧
    peer.respond before request = .body (some (.int32 id)) ∧ 0 ≤ id

section

variable {peer : Peer} {first second : Message} {rest sent : List Message} {id : Int32}

theorem Peer.not_grants (none : ∀ message ∈ sent, message.calls "requestSensor" = false) :
    ¬ peer.Grants sent id := by
  rintro ⟨before, request, after, rfl, calls, -⟩
  rw [none request (by simp)] at calls
  cases calls

/-- Where only the second message is a call for a session, it decides whether one is granted. -/
theorem Peer.grants_iff (before : first.calls "requestSensor" = false)
    (calls : second.calls "requestSensor" = true)
    (after : ∀ message ∈ rest, message.calls "requestSensor" = false) :
    peer.Grants (first :: second :: rest) id ↔
      peer.respond [first] second = .body (some (.int32 id)) ∧ 0 ≤ id := by
  constructor
  · rintro ⟨earlier, request, later, sent, calls', said⟩
    -- The call is neither the first message nor one of the rest.
    match earlier, sent with
    | [], sent =>
      rw [← (List.cons.inj sent).1, before] at calls'
      cases calls'
    | [only], sent =>
      obtain ⟨first_eq, sent⟩ := List.cons.inj sent
      obtain ⟨second_eq, -⟩ := List.cons.inj sent
      rw [first_eq, second_eq]
      exact said
    | _ :: _ :: earlier, sent =>
      obtain ⟨-, sent⟩ := List.cons.inj sent
      obtain ⟨-, rfl⟩ := List.cons.inj sent
      rw [after request (by simp)] at calls'
      cases calls'
  · intro said
    exact ⟨[first], second, rest, rfl, calls, said⟩

end

/-! ## Asking the manager -/

namespace Request

/-- The call that has the plugin of a sensor loaded. -/
def load (sensor : String) : Request := ⟨.manager, .call "loadPlugin" [.str sensor] .bool⟩

/-- The call for a session. -/
def grant (process : Int64) (sensor : String) : Request :=
  ⟨.manager, .call "requestSensor" [.str sensor, .long process] .int⟩

@[simp] theorem calls_load (sensor method : String) :
    (load sensor).inquiry.calls method = ("loadPlugin" == method) := rfl

@[simp] theorem calls_grant (process : Int64) (sensor method : String) :
    (grant process sensor).inquiry.calls method = ("requestSensor" == method) := rfl

end Request

/-- What can come of asking the manager for a session. -/
inductive Granting (process : Int64) (sensor : String) (talk : Conversation) :
    Except Failure Int32 × Conversation → Prop where
  | unreachable (f : Failure) : Granting process sensor talk (.error f, talk)
  | unloaded (f : Failure) : Granting process sensor talk (.error f, talk.after [.load sensor])
  | refused (f : Failure) (loaded : (Manager.loadPlugin talk sensor).1 = .ok true)
      (refused : ∀ id,
        (Manager.requestSensor (talk.after [.load sensor]) process sensor).1 = .ok id → ¬ 0 ≤ id) :
      Granting process sensor talk (.error f, talk.after [.load sensor, .grant process sensor])
  | granted (id : Int32) (loaded : (Manager.loadPlugin talk sensor).1 = .ok true)
      (granted : (Manager.requestSensor (talk.after [.load sensor]) process sensor).1 = .ok id)
      (valid : 0 ≤ id) :
      Granting process sensor talk (.ok id, talk.after [.load sensor, .grant process sensor])

theorem granting_grantSession (service : Service) (process : Int64) (sensor : String)
    (talk : Conversation) :
    Granting process sensor talk (grantSession service process sensor talk) := by
  have loads : Manager.loadPlugin talk sensor =
      ((Manager.loadPlugin talk sensor).1, talk.after [.load sensor]) := rfl
  have requests : Manager.requestSensor (talk.after [.load sensor]) process sensor =
      ((Manager.requestSensor (talk.after [.load sensor]) process sensor).1,
        talk.after [.load sensor, .grant process sensor]) := by
    refine Prod.ext rfl ?_
    exact Conversation.after_after talk [.load sensor] [.grant process sensor]
  unfold grantSession
  split
  · exact .unreachable _
  · rw [loads]
    cases loaded : (Manager.loadPlugin talk sensor).1 with
    | error e => exact .unloaded _
    | ok taken =>
      cases taken with
      | false => exact .unloaded _
      | true =>
        dsimp only
        rw [requests]
        cases granted : (Manager.requestSensor (talk.after [.load sensor]) process sensor).1 with
        | error e =>
          refine .refused _ loaded ?_
          intro id replied
          rw [granted] at replied
          cases replied
        | ok id =>
          dsimp only
          split
          · next negative =>
            refine .refused _ loaded ?_
            intro id' replied
            rw [granted] at replied
            cases replied
            exact Int32.not_le.mpr negative
          · next valid => exact .granted id loaded granted (Int32.not_lt.mp valid)

/-! ## The answers on the wire -/

section

variable {peer : Peer} {stations : Party → Except String Station} {station : Station}
  {service : Service} {process : Int64} {sensor : String} {talk : Conversation}

/-- Once the plugin is loaded, the manager is there, and the name of the sensor can be sent. -/
theorem sendable_of_loaded (wired : talk.bus = .onWire peer stations)
    (loaded : (Manager.loadPlugin talk sensor).1 = .ok true) :
    ∃ station, stations .manager = .ok station ∧ Name.isSendable sensor = true := by
  obtain ⟨message, written⟩ := Conversation.message?_of_call wired loaded
  obtain ⟨station, data, found, body, sendable⟩ := Request.sendable_of_message? written
  cases body
  exact ⟨station, found, by simpa [Datum.ofArg, Datum.isSendable] using sendable⟩

theorem cutsWire_load (sendable : Name.isSendable sensor = true) :
    (Request.load sensor).inquiry.cutsWire = false := by
  simp [Request.load, Inquiry.cutsWire, body?, Datum.ofArg, Datum.isSendable, sendable]

theorem cutsWire_grant (sendable : Name.isSendable sensor = true) :
    (Request.grant process sensor).inquiry.cutsWire = false := by
  simp [Request.grant, Inquiry.cutsWire, body?, Datum.ofArg, Datum.isSendable, sendable]

theorem message?_load (found : stations .manager = .ok station)
    (sendable : Name.isSendable sensor = true) :
    (Request.load sensor).message? stations =
      some (station.call "loadPlugin" [.str sensor]) :=
  Request.message?_call found _ (by decide) rfl (by simpa [Datum.isSendable] using sendable)

theorem message?_grant (process : Int64) (found : stations .manager = .ok station)
    (sendable : Name.isSendable sensor = true) :
    (Request.grant process sensor).message? stations =
      some (station.call "requestSensor" [.str sensor, .int64 process]) :=
  Request.message?_call found _ (by decide) rfl (by simpa [Datum.isSendable] using sendable)

/-- The messages of a talk that had a plugin loaded and asked for a session. -/
theorem messages_load_grant {more : List Request} (found : stations .manager = .ok station)
    (sendable : Name.isSendable sensor = true)
    (whole : ∀ request ∈ more, request.inquiry.cutsWire = false) :
    messages stations (.load sensor :: .grant process sensor :: more) =
      station.call "loadPlugin" [.str sensor] ::
        station.call "requestSensor" [.str sensor, .int64 process] ::
        more.filterMap (Request.message? stations) := by
  rw [messages_eq, List.filterMap_cons_some (message?_load found sendable),
    List.filterMap_cons_some (message?_grant process found sendable)]
  rintro request (_ | ⟨_, _ | ⟨_, later⟩⟩)
  · exact cutsWire_load sendable
  · exact cutsWire_grant sendable
  · exact whole request later

/-- A session is granted on the wire exactly if the client reads the number of one. -/
theorem grants_messages_iff {more : List Request} {id : Int32}
    (wired : talk = .begin (.onWire peer stations)) (found : stations .manager = .ok station)
    (sendable : Name.isSendable sensor = true)
    (whole : ∀ request ∈ more, request.inquiry.cutsWire = false)
    (other : ∀ request ∈ more, request.inquiry.calls "requestSensor" = false) :
    peer.Grants (messages stations (.load sensor :: .grant process sensor :: more)) id ↔
      (Manager.requestSensor (talk.after [.load sensor]) process sensor).1 = .ok id ∧ 0 ≤ id := by
  subst wired
  have loaded : messages stations [.load sensor] = [station.call "loadPlugin" [.str sensor]] := by
    rw [messages_eq, List.filterMap_cons_some (message?_load found sendable), List.filterMap_nil]
    intro request asked
    rw [List.mem_singleton.mp asked]
    exact cutsWire_load sendable
  have wired : ((Conversation.begin (.onWire peer stations)).after [.load sensor]).bus =
      .onWire peer stations := rfl
  have replied := Conversation.call_int_eq_ok_iff (n := id) wired
    (by simp [Conversation.begin, cutsWire, cutsWire_load sendable])
    (message?_grant process found sendable)
  rw [messages_load_grant found sendable whole, Peer.grants_iff (by simp) (by simp), ← loaded]
  · exact and_congr_left' replied.symm
  · -- What is asked later is no call for a session, so neither is what is sent for it.
    intro message sent
    obtain ⟨request, asked, written⟩ := List.mem_filterMap.mp sent
    rw [Request.calls_message? written]
    exact other request asked

/-- A command that gets no session was granted none, and hands none back. -/
theorem not_grants_of_grantSession {f : Failure}
    (asked :
      grantSession service process sensor (.begin (.onWire peer stations)) = (.error f, talk)) :
    (∀ id, ¬ peer.Grants (messages stations talk.log) id) ∧
      ∀ message ∈ messages stations talk.log, message.calls "releaseSensor" = false := by
  have came := granting_grantSession service process sensor (.begin (.onWire peer stations))
  rw [asked] at came
  -- A talk with the manager alone holds no call of the channel, and none that hands back.
  have quiet : ∀ requests : List Request,
      (∀ request ∈ requests, request = .load sensor ∨ request = .grant process sensor) →
      ∀ message ∈ messages stations requests, message.calls "releaseSensor" = false := by
    intro requests either message sent
    obtain ⟨request, asked, written⟩ := mem_messages sent
    rw [Request.calls_message? written]
    rcases either request asked with rfl | rfl <;> simp
  cases came with
  | unreachable => exact ⟨fun id => Peer.not_grants nofun, nofun⟩
  | unloaded =>
    refine ⟨fun id => Peer.not_grants ?_, quiet _ (by simp [Conversation.begin])⟩
    intro message sent
    obtain ⟨request, asked, written⟩ := mem_messages sent
    rw [Request.calls_message? written, List.mem_singleton.mp asked]
    simp
  | refused f loaded refused =>
    obtain ⟨station, found, sendable⟩ := sendable_of_loaded rfl loaded
    refine ⟨fun id granted => ?_, quiet _ (by simp [Conversation.begin])⟩
    obtain ⟨replied, valid⟩ := (grants_messages_iff rfl found sendable (List.forall_mem_nil _)
      (List.forall_mem_nil _)).mp granted
    exact refused id replied valid

end

end SensorClient
