import SensorClient.Control.Bus
import SensorClient.Text.Quoted
import SensorClient.Wire.Datum
import SensorClient.Wire.Error
import SensorClient.Wire.Name

/-!
# The bus over a wire

Requests go out as messages to a service on the other side of a wire, and its replies are read
back as values. A request that has no message never leaves. No side can read a text with a null in
it, and the other side hangs up on whoever sends one.

## Main definitions

* `Message`, `Peer`: what is sent, and who answers it
* `Station`: an object of a service, found on the wire
* `Station.find`: finds it, unless a name is malformed
* `Inquiry.cutsWire`: whether the other side hangs up on it
* `Bus.onWire`: the bus whose parties are stations
-/

namespace SensorClient

/-- What a message asks for. -/
inductive Content where
  | call (member : String) (args : List Datum)
  | get (property : String)
deriving DecidableEq, Repr

/-- A message and where it goes. -/
structure Message where
  destination : String
  path : String
  interface : String
  content : Content
deriving DecidableEq, Repr

/-- What is answered to a message. -/
inductive Response where
  | body (b : Body)
  | error (name : String) (message : Option String)
deriving DecidableEq, Repr

/-- The other side of the wire: it answers each message, given the ones before it. -/
structure Peer where
  respond : List Message → Message → Response

/-- An object of a service. -/
structure Station where
  destination : String
  path : String
  interface : String
  /-- Whether somebody provides the service. -/
  owned : Bool
deriving DecidableEq, Repr

namespace Station

/-- Finds an object of a service; malformed names are refused. -/
def find (destination path interface : String) (owned : Bool) : Except BusError Station :=
  if !Name.isBusName destination then .error (malformed "bus name")
  else if !Name.isPath path then .error (malformed "object path")
  else if !Name.isInterface interface then .error (malformed "interface name")
  else .ok ⟨destination, path, interface, owned⟩
where
  /-- The failure over a malformed name. -/
  malformed (what : String) : BusError := (WireError.other s!"malformed {what}").busError

/-- The text for inspection. -/
def inspect (s : Station) : String :=
  "SystemBus \x7b path: " ++ Text.quoted s.path ++ ", interface: " ++ Text.quoted s.interface
    ++ ", valid: " ++ toString s.owned ++ " \x7d"

/-- The message for an inquiry, or why there is none. -/
def message (s : Station) : Inquiry → Except BusError Message
  | .call method args _ =>
    match body? args with
    | none => .error (.unsupportedArguments method)
    | some data =>
      if Name.isMember method && data.all Datum.isSendable then
        .ok ⟨s.destination, s.path, s.interface, .call method data⟩
      else .error (WireError.other s!"call of {method} cannot be sent").busError
  | .property name =>
    if Name.isSendable name then .ok ⟨s.destination, s.path, s.interface, .get name⟩
    else .error (WireError.other s!"property {name} cannot be sent").busError

end Station

/-- Whether an inquiry makes the other side hang up: it would make a message, but for a null. -/
def Inquiry.cutsWire : Inquiry → Bool
  | .call method args _ =>
    Name.isMember method && (body? args).any fun data => !data.all Datum.isSendable
  | .property name => !Name.isSendable name

/-- What a response says to an inquiry. Texts with a null in them are not read. -/
def Response.answer (response : Response) : Inquiry → Except BusError Value
  | .call method _ want =>
    match response with
    | .body found =>
      match Body.read? want (found.filter Datum.isSendable) with
      | some value => .ok value
      | none => .error (WireError.other s!"reply to {method} has another signature").busError
    | .error name message =>
      .error (WireError.ofCall name (message.filter Name.isSendable)).busError
  | .property property =>
    match response with
    | .body none => .error (WireError.other s!"no value for property {property}").busError
    | .body (some datum) =>
      if Datum.maxNesting < datum.nesting || !datum.isSendable then
        .error (WireError.other s!"property {property} cannot be read").busError
      else
        match datum.ofVariant? with
        | some value => .ok value
        | none => .error (.transport (.propertyType property))
    | .error name message =>
      .error (WireError.ofProperty name (message.filter Name.isSendable)).busError

/-- Whether a request makes the other side hang up. One without a station is not sent. -/
def cutsWire (stations : Party → Except String Station) (request : Request) : Bool :=
  (stations request.party).isOk && request.inquiry.cutsWire

/-- The messages of requests, for the stations of the parties, up to the one that cuts the wire. -/
def messages (stations : Party → Except String Station) (requests : List Request) :
    List Message :=
  (requests.takeWhile fun request => !cutsWire stations request).filterMap fun request =>
    match stations request.party with
    | .error _ => none
    | .ok station => (station.message request.inquiry).toOption

/-- The bus whose parties are stations on one wire, or cannot be reached for some reason. -/
def Bus.onWire (peer : Peer) (stations : Party → Except String Station) : Bus where
  answer past request :=
    match stations request.party with
    | .error reason => .error (.connection reason)
    | .ok station =>
      match station.message request.inquiry with
      | .error e => .error e
      | .ok message =>
        if past.any (cutsWire stations) then .error (WireError.other "the wire is cut").busError
        else (peer.respond (messages stations past) message).answer request.inquiry
  isValid party :=
    match stations party with
    | .error _ => false
    | .ok station => station.owned

end SensorClient
