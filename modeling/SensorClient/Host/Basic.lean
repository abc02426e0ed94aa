import SensorClient.Host.Service
import SensorClient.Wire.Bus

/-!
# What surrounds a command

A command finds two message buses, files, and a daemon behind one of them. While samples stream,
time passes in turns: the command looks whether it was interrupted and whether its time is up, and
then waits for what the daemon does.

## Main definitions

* `Host`: everything that surrounds a command
* `Turn`: one turn of streaming
* `Host.station`: an object of the service, found on its bus
-/

namespace SensorClient

/-- What a path leads to. -/
inductive FileKind where
  | file
  | directory
  | socket
deriving DecidableEq, Repr

/-- A message bus that can be reached: who answers on it, and whether the service has an owner
each time that is asked. -/
structure Exchange where
  peer : Peer
  owned : Nat → Bool

/-- What happens in one turn of streaming: what the command is told before it waits, and what the
daemon does then, until the wait and the reads after it are over. -/
structure Turn where
  interrupted : Bool
  /-- Whether the time that was granted is up. -/
  expired : Bool
  arrival : Bytes
  hangsUp : Bool
deriving DecidableEq, Repr

/-- A turn in which nothing happens. -/
def Turn.quiet : Turn := ⟨false, false, [], false⟩

/-- Everything that surrounds a command. -/
structure Host where
  /-- A message bus, or why it cannot be reached. -/
  exchange : BusKind → Except String Exchange
  file : String → Except SystemError FileKind
  /-- What accepts connections at a path. -/
  listening : String → Except SystemError Link
  /-- How long the machine has been running. -/
  clock : Duration
  /-- The number of the command's own process. -/
  process : Int64
  /-- Whether the command can have itself told of interrupts, or why it cannot. -/
  interrupts : Except String Unit := .ok ()
  turns : List Turn

namespace Host

/-- An object of the service, when it is the `asked`-th one looked up. -/
def station (host : Host) (service : Service) (path interface : String) (asked : Nat) :
    Except BusError Station :=
  match host.exchange service.bus with
  | .error reason => .error (.connection s!"{service.bus.name} bus: {reason}")
  | .ok exchange => Station.find service.name path interface (exchange.owned asked)

/-- Whoever answers on the bus of the service. Nobody is asked on a bus out of reach. -/
def peer (host : Host) (service : Service) : Peer :=
  match host.exchange service.bus with
  | .error _ => ⟨fun _ _ => .body none⟩
  | .ok exchange => exchange.peer

end Host

end SensorClient
