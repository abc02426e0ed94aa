import SensorClient.Sample.Handshake

/-!
# The service that a daemon provides

The daemon is a service on one of two message buses, and has a socket for samples besides.

## Main definitions

* `BusKind`: the two buses
* `Service`: the service, its bus and its socket
-/

namespace SensorClient

/-- The two message buses of a machine. -/
inductive BusKind where
  | system
  | session
deriving DecidableEq, Repr

namespace BusKind

/-- The name of a bus. -/
def name : BusKind → String
  | system => "system"
  | session => "session"

/-- The bus with a given name. -/
def ofName? : String → Option BusKind
  | "system" => some system
  | "session" => some session
  | _ => none

end BusKind

/-- The service that the daemon provides, the bus it is on, and its socket. -/
structure Service where
  name : String
  bus : BusKind
  socket : SocketConfig
deriving DecidableEq, Repr

/-- The service unless another is named. -/
def Service.defaultName : String := "com.nokia.SensorService"

end SensorClient
