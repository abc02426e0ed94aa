import SensorClient.Control.Error

/-!
# How a command ends

## Main definitions

* `Exit`: the ways to end, each with its number
* `Failure`: a way to end, and what is said about it
* `Failure.ofBus`: the failure that a bus error amounts to
-/

namespace SensorClient

/-- The ways in which a command can end. -/
inductive Exit where
  | success
  | failure
  | transportError
  | healthCheckFailed
  | permissionDenied
  | dataInvalid
  | usage
  | timeout
  | internal
deriving DecidableEq, Repr

/-- The number of a way to end. -/
def Exit.code : Exit → Nat
  | success => 0
  | failure => 1
  | transportError => 3
  | healthCheckFailed => 30
  | permissionDenied => 50
  | dataInvalid => 60
  | usage => 64
  | timeout => 124
  | internal => 125

/-- A way to end, and what is said about it. -/
structure Failure where
  exit : Exit
  message : String
deriving DecidableEq, Repr

/-- The way to end after a bus error. An error of the other side whose name ends in
`AccessDenied` is a matter of permission. -/
def BusError.exit : BusError → Exit
  | connection _ | transport _ => .transportError
  | remote name _ =>
    if "AccessDenied".toList.isSuffixOf name.toList then .permissionDenied else .failure
  | replyType _ _ => .dataInvalid
  | unsupportedArguments _ => .internal

/-- The failure that a bus error amounts to, told with its circumstances. -/
def Failure.ofBus (context : String) (e : BusError) : Failure :=
  ⟨e.exit, s!"{context}: {e.message}"⟩

end SensorClient
