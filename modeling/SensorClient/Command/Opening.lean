import SensorClient.Command.Target
import SensorClient.Host.Basic
import SensorClient.Session.Channel

/-!
# Opening a session on a sensor

The manager is asked to load the plugin of the sensor and to grant a session. The session then
looks up the channel and connects to the sample socket. A channel that cannot be looked up leaves
every request to it without an answer, and a connection that fails is kept as the session's error.

## Main definitions

* `Execution`: what a command printed, how it ended, and what it did besides
* `stations`: the objects that a command talks to
* `openSession`: a session granted by the manager
-/

namespace SensorClient

/-- The ways in which a command comes to its end. -/
inductive Ending where
  | exit (e : Exit)
  | failure (f : Failure)
  /-- The arguments make no sense. -/
  | misuse
  /-- The command broke down. -/
  | breakdown
  /-- The command waits for something that does not come. -/
  | endless
deriving DecidableEq, Repr

/-- The number that the command ends with, if it ends. -/
def Ending.code? : Ending → Option Nat
  | exit e => some e.code
  | failure f => some f.exit.code
  | misuse => some 2
  | breakdown => some 101
  | endless => none

/-- What is said about a failure. -/
def Ending.complaint? : Ending → Option String
  | failure f => some s!"error: {f.message}\n"
  | _ => none

/-- What a command printed, how it ended, and what it did besides. -/
structure Execution where
  output : Bytes
  ending : Ending
  /-- The messages sent over the bus. -/
  messages : List Message
  /-- The connections that were open or had been opened, in the end. -/
  links : List Link
deriving DecidableEq, Repr

namespace Execution

/-- A command that only prints. -/
def printed (output : Bytes) (e : Exit) : Execution := ⟨output, .exit e, [], []⟩

/-- A command that fails before it asks for anything. -/
def refused (f : Failure) : Execution := ⟨[], .failure f, [], []⟩

end Execution

/-- The objects that a command talks to: the manager, and the channel of a sensor. -/
def stations (host : Host) (service : Service) (sensor interface : String) :
    Party → Except String Station
  | .manager =>
    (host.station service Manager.path Manager.interface 0).mapError BusError.message
  | .channel =>
    (host.station service (Manager.channelPath sensor) interface 1).mapError BusError.message

/-- The talk with those objects before it begins. -/
def controlTalk (host : Host) (service : Service) (sensor interface : String) : Conversation :=
  .begin (.onWire (host.peer service) (stations host service sensor interface))

/-- Has the manager grant a session; gives its number. -/
def grantSession (service : Service) (process : Int64) (sensor : String) (talk : Conversation) :
    Except Failure Int32 × Conversation :=
  if !talk.bus.isValid .manager then
    (.error ⟨.transportError,
      s!"{service.name} is not reachable on the {service.bus.name} bus"⟩, talk)
  else
    match Manager.loadPlugin talk sensor with
    | (.error e, talk) => (.error (.ofBus "loadPlugin failed" e), talk)
    | (.ok false, talk) => (.error ⟨.failure, s!"daemon could not load plugin for {sensor}"⟩, talk)
    | (.ok true, talk) =>
      match Manager.requestSensor talk process sensor with
      | (.error e, talk) => (.error (.ofBus "requestSensor failed" e), talk)
      | (.ok id, talk) =>
        if id < 0 then (.error ⟨.failure, s!"daemon refused a session for {sensor}"⟩, talk)
        else (.ok id, talk)

/-- Opens a session on a sensor, or gives the talk up to the failure. -/
def openSession {σ : Type} (host : Host) (service : Service) (sensor : String)
    (decoder : Decoder σ) (sink : σ) : Except (Failure × Conversation) (Session σ) :=
  match grantSession service host.process sensor
      (controlTalk host service sensor decoder.interface) with
  | (.error f, talk) => .error (f, talk)
  | (.ok id, talk) =>
    .ok (Session.overPath (Manager.channelPath sensor) talk service.socket host.listening decoder
      sink id host.process)

/-- The messages of a talk. -/
def sentMessages (host : Host) (service : Service) (sensor interface : String)
    (talk : Conversation) : List Message :=
  messages (stations host service sensor interface) talk.log

/-- The connections that a session has made. -/
def Session.links {σ : Type} (s : Session σ) : List Link := s.reader.closedWithHeld

end SensorClient
