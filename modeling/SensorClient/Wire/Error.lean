import SensorClient.Control.Error

/-!
# Failures on the wire

An error that the other side answers with has a name and may have a text. The standard names of
the bus have a form of their own, which can wrap any failure and be wrapped in turn. What counts
as an answer of the other side, and what as a failure to get one, depends on the form.

## Main definitions

* `WireError`, `StandardError`: the two forms
* `WireError.busError`, `StandardError.busError`: the failure as the client reports it
* `standardNames`: the names with a form of their own
-/

namespace SensorClient

mutual

/-- A failure of an exchange on the wire. -/
inductive WireError where
  /-- The other side answered with an error. -/
  | method (name : String) (message : Option String)
  /-- A failure in the form of the standard names. -/
  | standard (e : StandardError)
  /-- Anything else. -/
  | other (text : String)

/-- A failure in the form of the standard names. -/
inductive StandardError where
  /-- The other side answered with an error of a standard name. -/
  | named (name message : String)
  /-- Any failure at all. -/
  | wrapped (e : WireError)

end

mutual

/-- A wording of a failure. -/
def WireError.text : WireError → String
  | .method name none => name
  | .method name (some message) => s!"{name}: {message}"
  | .standard e => e.text
  | .other text => text

@[inherit_doc WireError.text]
def StandardError.text : StandardError → String
  | .named name message => s!"{name}: {message}"
  | .wrapped e => e.text

end

/-- Only an error that comes bare is the other side's; every other failure is the wire's. -/
def WireError.busError : WireError → BusError
  | .method name message => .remote name (message.getD "")
  | e => .transport (.wire e.text)

/-- An error of a standard name is the other side's; a wrapped failure is what it is by itself. -/
def StandardError.busError : StandardError → BusError
  | .named name message => .remote name message
  | .wrapped e => e.busError

/-- What the standard names start with. -/
def standardStem : String := "org.freedesktop.DBus.Error."

/-- The names with a form of their own. -/
def standardNames : List String :=
  ["Failed", "NoMemory", "ServiceUnknown", "NameHasNoOwner", "NoReply", "IOError", "BadAddress",
    "NotSupported", "LimitsExceeded", "AccessDenied", "AuthFailed", "NoServer", "Timeout",
    "NoNetwork", "AddressInUse", "Disconnected", "InvalidArgs", "FileNotFound", "FileExists",
    "UnknownMethod", "UnknownObject", "UnknownInterface", "UnknownProperty", "PropertyReadOnly",
    "TimedOut", "MatchRuleNotFound", "MatchRuleInvalid", "Spawn.ExecFailed", "Spawn.ForkFailed",
    "Spawn.ChildExited", "Spawn.ChildSignaled", "Spawn.Failed", "Spawn.FailedToSetup",
    "Spawn.ConfigInvalid", "Spawn.ServiceNotValid", "Spawn.ServiceNotFound",
    "Spawn.PermissionsInvalid", "Spawn.FileInvalid", "Spawn.NoMemory", "UnixProcessIdUnknown",
    "InvalidSignature", "InvalidFileContent", "SELinuxSecurityContextUnknown",
    "AdtAuditDataUnknown", "ObjectPathInUse", "InconsistentMessage",
    "InteractiveAuthorizationRequired", "NotContainer"].map (standardStem ++ ·)

/-- How an error answered to a call is delivered: bare. -/
def WireError.ofCall (name : String) (message : Option String) : WireError := .method name message

/-- How an error answered to a property read is delivered: in the form of the standard names if
it has one of these. -/
def WireError.ofProperty (name : String) (message : Option String) : WireError :=
  if name ∈ standardNames then .standard (.named name (message.getD ""))
  else .method name message

end SensorClient
