import SensorClient.Command.Arguments
import SensorClient.Command.Doctor
import SensorClient.Command.Info
import SensorClient.Report.Version

/-!
# Running a command line

## Main definitions

* `Command.run`: the execution of a command
* `execute`: the execution of a command line
-/

namespace SensorClient

/-- The execution of a command. -/
def Command.run (host : Host) (format : Format) : Command → Execution
  | .info location sensor => runInfo host format location sensor
  | .stream location sensor options => runStream host format location sensor options
  | .version extended => .printed (Version.print extended) .success
  | .doctor location => runDoctor host format location

/-- The execution of a command line; `terminal` tells whether people read the output. -/
def execute (host : Host) (environment : Environment) (terminal : Bool) (words : List String) :
    Execution :=
  match Invocation.read environment words with
  | .ok invocation =>
    invocation.command.run host (invocation.format.getD (Format.initial terminal))
  | .error .version => .printed (Report.line Version.text) .success
  | .error .help => .printed [] .success
  | .error .misuse => ⟨[], .misuse, [], []⟩

end SensorClient
