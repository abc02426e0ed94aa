import SensorClient.Command.Opening
import SensorClient.Report.Health

/-!
# Checking whether the daemon can be reached

## Main definitions

* `checkSocket`, `checkBus`: the two ways to the daemon
* `runDoctor`: the command
-/

namespace SensorClient

/-- Whether there is a socket at the path. -/
def checkSocket (host : Host) (path : String) : Check :=
  let found := Check.mk "sample_socket"
  if SocketConfig.maxPathLength ≤ path.utf8ByteSize then
    found .fail s!"{path} exceeds {SocketConfig.maxPathLength} bytes"
  else
    match host.file path with
    | .ok .socket => found .pass s!"{path} is a socket"
    | .ok _ => found .fail s!"{path} exists but is not a socket"
    | .error .noSuchFile => found .warn s!"{path} not found (daemon not running?)"
    | .error e => found .fail s!"{path}: {e.text}"

/-- Whether somebody provides the service. -/
def checkBus (host : Host) (service : Service) : Check :=
  let found := Check.mk "control_bus"
  let bus := service.bus.name
  match host.station service Manager.path Manager.interface 0 with
  | .error e => found .warn s!"{bus} bus unavailable: {e.message}"
  | .ok station =>
    if station.owned then found .pass s!"{service.name} is registered on the {bus} bus"
    else found .warn s!"{service.name} has no owner on the {bus} bus"

/-- What the program was built with. -/
def checkFeatures : Check := ⟨"compiled_features", .info, "system-bus, cli"⟩

/-- Checks everything and prints what was found. -/
def runDoctor (host : Host) (format : Format) (location : Location) : Execution :=
  match location.service? with
  | .error f => .refused f
  | .ok service =>
    let checks := [checkSocket host service.socket.path, checkBus host service, checkFeatures]
    .printed (Health.print checks format)
      (if Health.isSound checks then .success else .healthCheckFailed)

end SensorClient
