import SensorClient.Control.Value

/-!
# Failures on the control bus

## Main definitions

* `BusError`: what can go wrong with a call or a property read
* `BusError.message`: the wording
* `Reply`: a value or a failure
-/

namespace SensorClient

/-- What went wrong with a message on its way. -/
inductive TransportFault where
  /-- The bus says what it was. -/
  | stated (text : String)
  /-- The property holds a value of a type that cannot be used. -/
  | propertyType (name : String)
  /-- The message could not be built, sent, or read back. -/
  | wire (text : String)
deriving DecidableEq, Repr

/-- The wording of a transport fault. -/
def TransportFault.text : TransportFault → String
  | stated text => text
  | propertyType name => s!"property {name} has an unsupported type"
  | wire text => text

/-- What can go wrong with a call or a property read. -/
inductive BusError where
  /-- There is no bus to talk to. -/
  | connection (reason : String)
  /-- The other side answered with an error. -/
  | remote (name message : String)
  /-- The reply is of another kind than was asked for. -/
  | replyType (member : String) (expected : Kind)
  /-- The bus has no message for such arguments. -/
  | unsupportedArguments (member : String)
  /-- The message or its reply did not get through. -/
  | transport (fault : TransportFault)
deriving DecidableEq, Repr

/-- The wording of a failure. -/
def BusError.message : BusError → String
  | connection reason => s!"bus connection failed: {reason}"
  | remote name message => s!"remote error {name}: {message}"
  | replyType member expected => s!"unexpected reply to {member} (expected {expected.text})"
  | unsupportedArguments member => s!"unsupported argument signature for {member}"
  | transport fault => s!"bus transport error: {fault.text}"

/-- A value, or why there is none. -/
abbrev Reply (α : Type) := Except BusError α

namespace Reply

/-- Whether there is a value. -/
def isValid {α : Type} (reply : Reply α) : Bool := reply.isOk

/-- The value, if there is one. -/
def value? {α : Type} (reply : Reply α) : Option α := reply.toOption

/-- Why there is no value. -/
def error? {α : Type} : Reply α → Option BusError
  | .ok _ => none
  | .error e => some e

/-- The value, or the neutral value of its kind. -/
def valueOrDefault {α : Type} [Inhabited α] (reply : Reply α) : α := reply.toOption.getD default

end Reply

/-- A bare value as a reply of the kind that was asked for. -/
def Kind.replyTo (k : Kind) (member : String) (v : Value) : Reply k.Carrier :=
  match k.narrow v with
  | some carried => .ok carried
  | none => .error (.replyType member k)

end SensorClient
