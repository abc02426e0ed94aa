import SensorClient.Command.Run

/-!
# The program

Reads the command line and the environment, executes the command and prints what it printed. The
surroundings offer neither a message bus nor a socket.

## Main definitions

* `runHere`: the program
-/

namespace SensorClient

/-- A host on which nothing can be reached. -/
def Host.bare : Host where
  exchange _ := .error "no transport"
  file _ := .error .noSuchFile
  listening _ := .error .noSuchFile
  clock := ⟨0⟩
  process := 0
  turns := []

/-- The variables of the environment that are looked at. -/
def environmentNames : List String := ["SENSORCHAN_SOCKET", "SENSORCHAN_SERVICE", "SENSORCHAN_BUS"]

/-- Executes a command line and prints what it printed; gives the number of the way it ended. -/
def runHere (args : List String) : IO UInt32 := do
  let values ← environmentNames.filterMapM fun name => do
    return (← IO.getEnv name).map fun value => (name, value)
  let output ← IO.getStdout
  let run := execute .bare (fun name => values.lookup name) (← output.isTty) args
  output.write ⟨run.output.toArray⟩
  output.flush
  match run.ending.complaint? with
  | some text => IO.eprint text
  | none => pure ()
  return UInt32.ofNat (run.ending.code?.getD Exit.internal.code)

end SensorClient

/-- Executes the command line. -/
def main (args : List String) : IO UInt32 := SensorClient.runHere args
