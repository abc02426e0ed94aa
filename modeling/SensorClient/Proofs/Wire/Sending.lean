import Mathlib.Data.List.TakeWhile
import SensorClient.Proofs.Control.Narrowing
import SensorClient.Wire.Bus

/-!
# What is sent and what is read

A request becomes a message at the station of the party that it is put to. As long as nothing that
is asked makes the other side hang up, every request that has a message is sent, in order. What is
read of an answer is what the other side said: a number asked for with a call is the number in the
body, and a text read from a property can be sent again.

## Main definitions

* `Request.message?`: the message of a request
* `Station.call`: a call of a method at a station
* `Inquiry.calls`, `Message.calls`: whether something is a call of a method

## Main results

* `messages_eq`: the messages of requests that do not cut the wire
* `mem_messages`: every message is that of a request
* `call_int_eq_ok_iff`: a number that is read is the one in the response
* `isSendable_property`: a text that is read can be sent
-/

namespace SensorClient

/-- Whether this is a call of the method. -/
def Inquiry.calls (method : String) : Inquiry → Bool
  | .call name _ _ => name == method
  | .property _ => false

/-- Whether this is a call of the method. -/
def Message.calls (method : String) (message : Message) : Bool :=
  match message.content with
  | .call name _ => name == method
  | .get _ => false

/-- The message of a request, if its party has a station and it has a message there. -/
def Request.message? (stations : Party → Except String Station) (request : Request) :
    Option Message :=
  match stations request.party with
  | .error _ => none
  | .ok station => (station.message request.inquiry).toOption

/-- A call of a method at a station. -/
def Station.call (station : Station) (method : String) (data : List Datum) : Message :=
  ⟨station.destination, station.path, station.interface, .call method data⟩

theorem Station.message_call {station : Station} {method : String} {args : List Arg}
    {data : List Datum} (want : Kind) (member : Name.isMember method = true)
    (body : body? args = some data) (sendable : data.all Datum.isSendable = true) :
    station.message (.call method args want) = .ok (station.call method data) := by
  simp [message, call, body, member, sendable]

@[simp] theorem Station.calls_call (station : Station) (method other : String)
    (data : List Datum) : (station.call method data).calls other = (method == other) := rfl

/-- A message calls what its inquiry calls. -/
theorem Station.calls_message {station : Station} {inquiry : Inquiry} {message : Message}
    (sent : station.message inquiry = .ok message) (method : String) :
    message.calls method = inquiry.calls method := by
  cases inquiry with
  | call name args want =>
    unfold Station.message at sent
    dsimp only at sent
    split at sent
    · cases sent
    · split at sent
      · cases sent
        rfl
      · cases sent
  | property name =>
    unfold Station.message at sent
    dsimp only at sent
    split at sent
    · cases sent
      rfl
    · cases sent

section

variable {stations : Party → Except String Station}

theorem Request.calls_message? {request : Request} {message : Message}
    (sent : request.message? stations = some message) (method : String) :
    message.calls method = request.inquiry.calls method := by
  unfold message? at sent
  split at sent
  · cases sent
  · next station found =>
    cases written : station.message request.inquiry with
    | error e => simp [written, Except.toOption] at sent
    | ok written' =>
      rw [written] at sent
      cases sent
      exact Station.calls_message written method

theorem Request.message?_call {party : Party} {station : Station} {method : String}
    {args : List Arg} {data : List Datum} (found : stations party = .ok station) (want : Kind)
    (member : Name.isMember method = true) (body : body? args = some data)
    (sendable : data.all Datum.isSendable = true) :
    message? stations ⟨party, .call method args want⟩ = some (station.call method data) := by
  simp only [message?, found, Station.message_call want member body sendable]
  rfl

/-- Only a call with texts that can be sent, at a station that was found, has a message. -/
theorem Request.sendable_of_message? {party : Party} {method : String} {args : List Arg}
    {want : Kind} {message : Message}
    (written : message? stations ⟨party, .call method args want⟩ = some message) :
    ∃ station data, stations party = .ok station ∧ body? args = some data ∧
      data.all Datum.isSendable = true := by
  unfold message? at written
  split at written
  · cases written
  · next station found =>
    dsimp only [Station.message] at written
    split at written
    · cases written
    · next data body =>
      split at written
      · next sendable =>
        rw [Bool.and_eq_true] at sendable
        exact ⟨station, data, found, body, sendable.2⟩
      · cases written

/-- Every message is that of a request. -/
theorem mem_messages {requests : List Request} {message : Message}
    (sent : message ∈ messages stations requests) :
    ∃ request ∈ requests, request.message? stations = some message := by
  obtain ⟨request, kept, written⟩ := List.mem_filterMap.mp sent
  exact ⟨request, (List.takeWhile_sublist _).subset kept, written⟩

/-- Requests that do not cut the wire are sent, all of them that have a message. -/
theorem messages_eq {requests : List Request}
    (whole : ∀ request ∈ requests, request.inquiry.cutsWire = false) :
    messages stations requests = requests.filterMap (Request.message? stations) := by
  have kept : requests.takeWhile (fun request => !cutsWire stations request) = requests := by
    rw [List.takeWhile_eq_self_iff]
    intro request asked
    simp [cutsWire, whole request asked]
  rw [messages, kept]
  rfl

/-- The calls of a method among the messages are those among the requests. -/
theorem filter_calls_messages {requests : List Request}
    (whole : ∀ request ∈ requests, request.inquiry.cutsWire = false) (method : String) :
    (messages stations requests).filter (Message.calls method) =
      (requests.filter fun request => request.inquiry.calls method).filterMap
        (Request.message? stations) := by
  rw [messages_eq whole]
  clear whole
  induction requests with
  | nil => rfl
  | cons request requests ih =>
    cases written : request.message? stations with
    | none =>
      rw [List.filterMap_cons_none written, ih, List.filter_cons]
      split
      · rw [List.filterMap_cons_none written]
      · rfl
    | some message =>
      rw [List.filterMap_cons_some written, List.filter_cons, List.filter_cons, ih,
        Request.calls_message? written]
      split
      · rw [List.filterMap_cons_some written]
      · rfl

end

/-! ## What is read -/

/-- A value of a kind is read as one of that kind. -/
theorem Kind.narrow_value (k : Kind) (v : k.Carrier) : k.narrow (k.value v) = some v := by
  rw [narrow_eq_some_iff]
  cases k with
  | unit => trivial
  | _ => rfl

/-- A value of the kind that is wanted is the reply. -/
theorem Kind.replyTo_value (k : Kind) (member : String) (v : k.Carrier) :
    k.replyTo member (k.value v) = .ok v := by
  rw [replyTo, k.narrow_value]

/-- What is read of a body is a value of the kind that was wanted, and is what the body holds if
anything was wanted at all. -/
theorem Body.of_read? {k : Kind} {b : Body} {v : Value} (read : Body.read? k b = some v) :
    ∃ w, v = k.value w ∧ (k ≠ .unit → b = Body.ofValue (k.value w)) := by
  unfold Body.read? at read
  split at read
  · cases read
    exact ⟨(), rfl, fun other => absurd rfl other⟩
  all_goals cases read
  all_goals exact ⟨_, rfl, fun _ => rfl⟩

theorem Response.answer_int_iff {response : Response} {method : String} {args : List Arg}
    {value : Value} :
    response.answer (.call method args .int) = .ok value ↔
      ∃ n, response = .body (some (.int32 n)) ∧ value = .int n := by
  constructor
  · intro answered
    cases response with
    | error name message => cases answered
    | body found =>
      cases read : Body.read? .int (found.filter Datum.isSendable) with
      | none => simp [answer, read] at answered
      | some value' =>
        obtain ⟨n, rfl, held⟩ := Body.of_read? read
        have kept : found.filter Datum.isSendable = some (.int32 n) := held nofun
        simp only [answer, read, Except.ok.injEq] at answered
        exact ⟨n, by rw [(Option.filter_eq_some_iff.mp kept).1], answered.symm⟩
  · rintro ⟨n, rfl, rfl⟩
    rfl

theorem Datum.isSendable_text {datum : Datum} {text : String} (sendable : datum.isSendable = true)
    (read : datum.ofVariant? = some (.str text)) : Name.isSendable text = true := by
  induction datum with
  | str s =>
    cases read
    exact sendable
  | variant inner ih => exact ih sendable read
  | _ => cases read

theorem Response.isSendable_of_property {response : Response} {name text : String}
    (answered : response.answer (.property name) = .ok (.str text)) :
    Name.isSendable text = true := by
  cases response with
  | error name message => cases answered
  | body found =>
    cases found with
    | none => cases answered
    | some datum =>
      unfold answer at answered
      dsimp only at answered
      split at answered
      · cases answered
      · next readable =>
        split at answered
        · next value read =>
          cases answered
          simp only [Bool.or_eq_true, not_or] at readable
          exact Datum.isSendable_text (by simpa using readable.2) read
        · cases answered

section

variable {peer : Peer} {stations : Party → Except String Station}

/-- What is answered over the wire is the response to the message, while the wire is whole. -/
theorem answer_onWire_eq_ok_iff {past : List Request} {request : Request} {value : Value} :
    (Bus.onWire peer stations).answer past request = .ok value ↔
      ∃ message, request.message? stations = some message ∧
        past.any (cutsWire stations) = false ∧
        (peer.respond (messages stations past) message).answer request.inquiry = .ok value := by
  dsimp only [Bus.onWire, Request.message?]
  cases stations request.party with
  | error reason => simp
  | ok station =>
    dsimp only
    cases station.message request.inquiry with
    | error e => simp [Except.toOption]
    | ok message => cases cut : past.any (cutsWire stations) <;> simp [Except.toOption]

/-- Only a call that was sent is answered. -/
theorem Conversation.message?_of_call {talk : Conversation} {party : Party} {k : Kind}
    {method : String} {args : List Arg} {carried : k.Carrier}
    (wired : talk.bus = .onWire peer stations)
    (replied : (talk.call party k method args).1 = .ok carried) :
    ∃ message, Request.message? stations ⟨party, .call method args k⟩ = some message := by
  change (talk.bus.answer talk.log ⟨party, .call method args k⟩).bind
    (k.replyTo method) = .ok carried at replied
  rw [wired] at replied
  cases answered : (Bus.onWire peer stations).answer talk.log ⟨party, .call method args k⟩ with
  | error e =>
    rw [answered] at replied
    cases replied
  | ok value =>
    obtain ⟨message, written, -⟩ := answer_onWire_eq_ok_iff.mp answered
    exact ⟨message, written⟩

/-- A number that is read over the wire is the one in the response. -/
theorem Conversation.call_int_eq_ok_iff {talk : Conversation} {party : Party} {method : String}
    {args : List Arg} {message : Message} {n : Int32} (wired : talk.bus = .onWire peer stations)
    (whole : talk.log.any (cutsWire stations) = false)
    (written : Request.message? stations ⟨party, .call method args .int⟩ = some message) :
    (talk.call party .int method args).1 = .ok n ↔
      peer.respond (messages stations talk.log) message = .body (some (.int32 n)) := by
  change (talk.bus.answer talk.log ⟨party, .call method args .int⟩).bind
    (Kind.int.replyTo method) = .ok n ↔ _
  rw [wired]
  constructor
  · intro replied
    cases answered : (Bus.onWire peer stations).answer talk.log ⟨party, .call method args .int⟩ with
    | error e =>
      rw [answered] at replied
      cases replied
    | ok value =>
      rw [answered] at replied
      obtain ⟨message', written', -, response⟩ := answer_onWire_eq_ok_iff.mp answered
      obtain rfl := Option.some.inj (written.symm.trans written')
      obtain ⟨m, said, rfl⟩ := Response.answer_int_iff.mp response
      cases (Kind.replyTo_value .int method m).symm.trans replied
      exact said
  · intro response
    have answered := answer_onWire_eq_ok_iff.mpr ⟨message, written, whole,
      Response.answer_int_iff.mpr ⟨n, response, rfl⟩⟩
    rw [answered]
    exact Kind.replyTo_value .int method n

/-- A text that is read over the wire can be sent. -/
theorem Conversation.isSendable_property {talk : Conversation}
    (wired : talk.bus = .onWire peer stations) (party : Party) (name : String) :
    Name.isSendable (Reply.valueOrDefault (talk.property party .str name).1) = true := by
  change Name.isSendable (Reply.valueOrDefault
    ((talk.bus.answer talk.log ⟨party, .property name⟩).bind (Kind.str.replyTo name))) = true
  rw [wired]
  cases answered : (Bus.onWire peer stations).answer talk.log ⟨party, .property name⟩ with
  | error e => rfl
  | ok value =>
    obtain ⟨message, -, -, response⟩ := answer_onWire_eq_ok_iff.mp answered
    cases value with
    | str text => exact Response.isSendable_of_property response
    | _ => rfl

end

end SensorClient
