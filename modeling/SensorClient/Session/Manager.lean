import SensorClient.Control.Bus
import SensorClient.Control.Endpoint

/-!
# The session manager

The manager loads the plugin of a sensor, grants sessions to processes and takes them back.

## Main definitions

* `Manager.loadPlugin`, `Manager.requestSensor`, `Manager.release`: the calls to the manager
* `Manager.channelPath`: where the channel of a sensor is found
-/

namespace SensorClient.Manager

/-- Where the manager is found. -/
def path : String := "/SensorManager"

/-- The interface of the manager. -/
def interface : String := "local.SensorManager"

/-- The address of the manager. -/
def endpoint : Endpoint := ⟨path, interface⟩

/-- The address of the manager for inspection. -/
def inspect : String := "BusSessionManager \x7b endpoint: " ++ endpoint.inspect ++ " \x7d"

/-- Has the plugin of a sensor loaded. -/
def loadPlugin (talk : Conversation) (sensor : String) : Reply Bool × Conversation :=
  talk.call .manager .bool "loadPlugin" [.str sensor]

/-- Asks for a session for a process. -/
def requestSensor (talk : Conversation) (process : Int64) (sensor : String) :
    Reply Int32 × Conversation :=
  talk.call .manager .int "requestSensor" [.str sensor, .long process]

/-- Hands a session back; says whether the manager took it. -/
def release (talk : Conversation) (process : Int64) (sensor : String) (sessionId : Int32) :
    Bool × Conversation :=
  let (reply, talk) :=
    talk.call .manager .bool "releaseSensor" [.str sensor, .int sessionId, .long process]
  (Reply.valueOrDefault reply, talk)

/-- Where the channel of a sensor is found. -/
def channelPath (sensor : String) : String := s!"{path}/{sensor}"

end SensorClient.Manager
