import SensorClient.Host.Service
import SensorClient.Report.Format

/-!
# The version of the program

## Main definitions

* `Version.print`: the version, alone or with what the program was built for
-/

namespace SensorClient

namespace Version

/-- The name of the program. -/
def program : String := "sensorchan"

/-- The version of the program. -/
def number : String := "0.1.0"

/-- The name and the version. -/
def text : String := s!"{program} {number}"

/-- What the program was built for and the daemon it expects. -/
def extended : List String :=
  [s!"name: {program}", s!"version: {number}", "target: x86_64-unknown-linux-gnu",
    "target_os: linux", "target_arch: x86_64", "git_hash: unknown",
    "features: system-bus=true, cli=true", s!"service: {Service.defaultName}",
    s!"socket: {SocketConfig.defaultPath}"]

/-- The report. -/
def print (full : Bool) : Bytes := if full then Report.lines extended else Report.line text

end Version

end SensorClient
