import SensorClient.Command.Exit
import SensorClient.Host.Service

/-!
# What a client asks for

A client states where the daemon is and which sensor it wants. Waiting times come as texts, and the
interface of a common sensor need not be stated.

## Main definitions

* `Location`: where the client looks for the daemon
* `Sensor`: the sensor it wants
-/

namespace SensorClient

/-- The failure over a text that gives no length of time. -/
def DurationFault.failure (fault : DurationFault) : Failure := ⟨.usage, fault.message⟩

/-- The length of time that a client means. -/
def Duration.wanted (text : String) : Except Failure Duration :=
  (Duration.read text).mapError DurationFault.failure

/-- Where a client looks for the daemon. -/
structure Location where
  socket : String
  service : String
  bus : BusKind
  handshakeTimeout : String
deriving DecidableEq, Repr

/-- The service that a location means. Reads of samples are not limited. -/
def Location.service? (l : Location) : Except Failure Service := do
  let limit ← Duration.wanted l.handshakeTimeout
  return ⟨l.service, l.bus,
    { SocketConfig.initial with path := l.socket, handshakeTimeout := limit }⟩

/-- A sensor, and the interface of its channel if the client knows better. -/
structure Sensor where
  name : String
  interface : Option String
deriving DecidableEq, Repr

namespace Sensor

/-- The interfaces of the common sensors. -/
def knownInterfaces : List (String × String) :=
  [("accelerometersensor", "local.AccelerometerSensor"), ("alssensor", "local.ALSSensor"),
    ("compasssensor", "local.CompassSensor"), ("gyroscopesensor", "local.GyroscopeSensor"),
    ("magnetometersensor", "local.MagnetometerSensor"),
    ("orientationsensor", "local.OrientationSensor"),
    ("pressuresensor", "local.PressureSensor"), ("proximitysensor", "local.ProximitySensor"),
    ("rotationsensor", "local.RotationSensor"), ("tapsensor", "local.TapSensor"),
    ("temperaturesensor", "local.TemperatureSensor")]

/-- The interface that the client gives, else the one of a common sensor. -/
def interface? (s : Sensor) : Except Failure String :=
  match s.interface <|> knownInterfaces.lookup s.name with
  | some interface => .ok interface
  | none => .error ⟨.usage, s!"no known interface for {s.name}; pass --interface"⟩

end Sensor

end SensorClient
