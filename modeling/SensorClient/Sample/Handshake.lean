import SensorClient.Sample.Link

/-!
# Opening a sample connection

A client that has reached the daemon writes the number of its session, four bytes with the least
significant one first, and waits for one byte of acknowledgement, whatever its value. Both waits
are limited. The samples follow the acknowledgement.

## Main definitions

* `SocketConfig`: where the daemon listens, and how long to wait
* `SocketError`: what can go wrong with a connection
* `Link.handshake`: opens a session on a connection
* `reach`: finds the daemon at a path
-/

namespace SensorClient

/-- Where the daemon listens, and how long to wait for it. -/
structure SocketConfig where
  path : String
  handshakeTimeout : Duration
  readTimeout : Option Duration
deriving DecidableEq, Repr

namespace SocketConfig

/-- The socket of the daemon unless another is named. -/
def defaultPath : String := "/var/run/sensord.sock"

/-- The daemon's own socket, five seconds to open a session, and no limit on reads. -/
def initial : SocketConfig := ⟨defaultPath, .ofSeconds 5, none⟩

/-- The bytes of a session number. -/
def sessionIdWidth : Nat := 4

/-- The length in bytes that a path has to stay below. -/
def maxPathLength : Nat := 108

end SocketConfig

/-- The step at which a session could not be opened. -/
inductive HandshakeFault where
  | writing (e : SystemError)
  | acknowledgement (fault : ReadFault)
deriving DecidableEq, Repr

/-- The wording of a fault. -/
def HandshakeFault.text : HandshakeFault → String
  | writing e => s!"writing session id failed: {e.text}"
  | acknowledgement fault => s!"reading acknowledgement failed: {fault.text}"

/-- What can go wrong with a connection. -/
inductive SocketError where
  | connect (path : String) (e : SystemError)
  | handshake (sessionId : Int32) (fault : HandshakeFault)
  | io (e : SystemError)
  | pathTooLong (path : String)
  | closed
  | notConnected
deriving DecidableEq, Repr

/-- The wording of an error. -/
def SocketError.message : SocketError → String
  | connect path e => s!"failed to connect to {path}: {e.text}"
  | handshake sessionId fault => s!"handshake for session {sessionId.toInt} failed: {fault.text}"
  | io e => s!"socket I/O error: {e.text}"
  | pathTooLong path =>
    s!"socket path too long ({path.utf8ByteSize} bytes, max {SocketConfig.maxPathLength}): {path}"
  | closed => "connection closed by daemon"
  | notConnected => "socket not connected"

/-- Finds the daemon at a path, given what listens where. A path that is too long is not tried. -/
def reach (listening : String → Except SystemError Link) (path : String) :
    Except SocketError Link :=
  if SocketConfig.maxPathLength ≤ path.utf8ByteSize then .error (.pathTooLong path)
  else
    match listening path with
    | .ok link => .ok link
    | .error e => .error (.connect path e)

/-- Opens a session. Where this fails the link is given back as far as it got. -/
def Link.handshake (link : Link) (config : SocketConfig) (sessionId : Int32) :
    Except SocketError Unit × Link :=
  match link.setReadTimeout (some config.handshakeTimeout) with
  | .error e => (.error (.io e), link)
  | .ok link =>
    let link := { link with writeTimeout := some config.handshakeTimeout }
    match link.write (Bytes.ofInt32 sessionId) with
    | (.error e, link) => (.error (.handshake sessionId (.writing e)), link)
    | (.ok _, link) =>
      match link.readExact 1 with
      | (.error fault, link) => (.error (.handshake sessionId (.acknowledgement fault)), link)
      | (.ok _, link) =>
        match link.setReadTimeout config.readTimeout with
        | .error e => (.error (.io e), link)
        | .ok link => (.ok (), { link with writeTimeout := none })

end SensorClient
