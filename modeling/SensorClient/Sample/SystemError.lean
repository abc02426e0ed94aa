/-!
# Errors of the system

## Main definitions

* `SystemError`: how the system refuses an operation on a file or a connection
* `SystemError.text`: its wording
* `SystemError.category`: the word for its kind
-/

namespace SensorClient

/-- How the system refuses an operation. -/
inductive SystemError where
  | noSuchFile
  | badDescriptor
  | wouldBlock
  | notDirectory
  | invalidArgument
  | brokenPipe
  | connectionRefused
  /-- A wait was limited to no time at all. -/
  | zeroTimeout
  /-- A path holds a null byte. -/
  | nullInPath
deriving DecidableEq, Repr

namespace SystemError

/-- The wording of an error. -/
def text : SystemError → String
  | noSuchFile => "No such file or directory (os error 2)"
  | badDescriptor => "Bad file descriptor (os error 9)"
  | wouldBlock => "Resource temporarily unavailable (os error 11)"
  | notDirectory => "Not a directory (os error 20)"
  | invalidArgument => "Invalid argument (os error 22)"
  | brokenPipe => "Broken pipe (os error 32)"
  | connectionRefused => "Connection refused (os error 111)"
  | zeroTimeout => "cannot set a 0 duration timeout"
  | nullInPath => "paths must not contain interior null bytes"

/-- The word for the kind of an error. -/
def category : SystemError → String
  | noSuchFile => "NotFound"
  | badDescriptor => "Uncategorized"
  | wouldBlock => "WouldBlock"
  | notDirectory => "NotADirectory"
  | invalidArgument | zeroTimeout | nullInPath => "InvalidInput"
  | brokenPipe => "BrokenPipe"
  | connectionRefused => "ConnectionRefused"

end SystemError

end SensorClient
