import SensorClient.Sample.Decoder
import SensorClient.Session.Desired
import SensorClient.Session.Manager
import SensorClient.Session.SensorError

/-!
# A session on a sensor channel

A session is controlled over the bus and gets its samples over a connection of its own. It keeps
what its client wants configured and pushes that with every start. Every change is made locally
before the daemon hears of it, so what the daemon answers never decides what the session believes.

## Main definitions

* `Session`
* `Session.overLink`, `Session.overPath`: opens a session
* `Session.startWith`, `Session.stopWith`, `Session.release`: its life
* `Session.processEvents`: waits for samples and has them decoded
* `Session.close`: the end
-/

namespace SensorClient

/-- A failure told to a listener. -/
structure Notice where
  listener : Nat
  code : SensorError
  message : String
deriving DecidableEq, Repr

/-- What came of waiting for samples. -/
inductive Dispatch where
  | idle
  | delivered (passes : Nat)
  | disconnected
deriving DecidableEq, Repr

/-- A session on a sensor channel; `σ` holds the states of its decoder. -/
structure Session (σ : Type) where
  endpoint : Endpoint
  talk : Conversation
  reader : Reader
  decoder : Decoder σ
  /-- The state of the decoder: what it has made of the samples. -/
  sink : σ
  id : Int32
  /-- The process that holds the session. -/
  process : Int64
  desired : Desired
  error : ErrorState
  running : Bool
  released : Bool
  /-- The number of listeners. -/
  listeners : Nat
  /-- What the listeners were told. -/
  notices : List Notice

namespace Session

variable {σ : Type}

/-! ## Errors -/

/-- Forgets the local error. -/
def clearError (s : Session σ) : Session σ := { s with error := .clear }

/-- Records a local error and tells every listener. -/
def setError (s : Session σ) (code : SensorError) (message : String) : Session σ :=
  { s with
    error := ⟨code, message⟩
    notices := s.notices ++ (List.range s.listeners).map fun i => ⟨i, code, message⟩ }

/-- Adds a listener; gives its number. -/
def addListener (s : Session σ) : Nat × Session σ :=
  (s.listeners, { s with listeners := s.listeners + 1 })

/-! ## Opening -/

/-- A session on a reader that has or has not connected. -/
def assemble (endpoint : Endpoint) (talk : Conversation) (connected : Bool) (reader : Reader)
    (decoder : Decoder σ) (sink : σ) (id : Int32) (process : Int64) : Session σ :=
  let s : Session σ :=
    { endpoint, talk, reader, decoder, sink, id, process, desired := .initial, error := .clear
      running := false, released := false, listeners := 0, notices := [] }
  if connected then s else s.setError .clientSocketError "Socket connection failed."

/-- Opens a session on a connection at hand. -/
def overLink (path : String) (talk : Conversation) (config : SocketConfig) (link : Link)
    (decoder : Decoder σ) (sink : σ) (id : Int32) (process : Int64) : Session σ :=
  let (result, reader) := (Reader.idle config).adopt id link
  assemble ⟨path, decoder.interface⟩ talk result.isOk reader decoder sink id process

/-- Opens a session on a connection to the daemon. -/
def overPath (path : String) (talk : Conversation) (config : SocketConfig)
    (listening : String → Except SystemError Link) (decoder : Decoder σ) (sink : σ) (id : Int32)
    (process : Int64) : Session σ :=
  let (result, reader) := (Reader.idle config).connect id listening
  assemble ⟨path, decoder.interface⟩ talk result.isOk reader decoder sink id process

/-! ## Requests -/

/-- Calls a method of the channel. -/
def call (s : Session σ) (k : Kind) (method : String) (args : List Arg) :
    Reply k.Carrier × Session σ :=
  let (reply, talk) := s.talk.call .channel k method args
  (reply, { s with talk })

/-- Reads a property of the channel. -/
def property (s : Session σ) (k : Kind) (name : String) : Reply k.Carrier × Session σ :=
  let (reply, talk) := s.talk.property .channel k name
  (reply, { s with talk })

/-- Sends the sampling interval. -/
def sendInterval (s : Session σ) (id : Int32) (value : Int32) : Reply Unit × Session σ :=
  s.clearError.call .unit "setInterval" [.int id, .int value]

/-- Sends the interval at which the daemon empties its buffer. -/
def sendBufferInterval (s : Session σ) (id : Int32) (value : UInt32) : Reply Unit × Session σ :=
  s.clearError.call .unit "setBufferInterval" [.int id, .uint value]

/-- Sends the size of the daemon's buffer. -/
def sendBufferSize (s : Session σ) (id : Int32) (value : UInt32) : Reply Unit × Session σ :=
  s.clearError.call .unit "setBufferSize" [.int id, .uint value]

/-- Sends whether the sensor stays on while the display is off. -/
def sendStandbyOverride (s : Session σ) (id : Int32) (value : Bool) : Reply Bool × Session σ :=
  s.clearError.call .bool "setStandbyOverride" [.int id, .bool value]

/-! ## Starting and stopping -/

/-- Starts under a session number and pushes the whole configuration. A session that runs is left
alone. -/
def startWith (s : Session σ) (id : Int32) : Reply Unit × Session σ :=
  if s.running then (.ok (), s)
  else
    let s := { s.clearError with running := true, reader := s.reader.subscribe }
    let (reply, s) := s.call .unit "start" [.int id]
    let s := if s.desired.standbyOverride then (s.sendStandbyOverride id true).2 else s
    let s := (s.sendInterval id s.desired.interval).2
    let s := (s.sendBufferInterval id s.desired.bufferInterval).2
    let s := (s.sendBufferSize id s.desired.bufferSize).2
    (reply, s)

/-- Starts under the session's own number. -/
def start (s : Session σ) : Reply Unit × Session σ := s.startWith s.id

/-- Stops under a session number. A session that does not run is left alone. -/
def stopWith (s : Session σ) (id : Int32) : Reply Unit × Session σ :=
  if !s.running then (.ok (), s)
  else
    let s := { s.clearError with running := false, reader := s.reader.unsubscribe }
    let s := (s.sendStandbyOverride id false).2
    let s := (s.sendInterval id 0).2
    s.call .unit "stop" [.int id]

/-- Stops under the session's own number. -/
def stop (s : Session σ) : Reply Unit × Session σ := s.stopWith s.id

/-- Hands the session back to the manager, once; says whether the manager took it. -/
def release (s : Session σ) : Bool × Session σ :=
  if s.released then (true, s)
  else
    let s := { s with released := true }
    let (name, s) := s.property .str "id"
    let (taken, talk) := Manager.release s.talk s.process (Reply.valueOrDefault name) s.id
    (taken, { s with talk })

/-! ## Configuration -/

/-- Wants a sampling interval; sent at once while running. -/
def setInterval (s : Session σ) (value : Int32) : Session σ :=
  let s := { s with desired.interval := value }
  if s.running then (s.sendInterval s.id value).2 else s

/-- Wants a buffer interval; sent at once while stopped. -/
def setBufferInterval (s : Session σ) (value : UInt32) : Session σ :=
  let s := { s with desired.bufferInterval := value }
  if s.running then s else (s.sendBufferInterval s.id value).2

/-- Wants a buffer size; sent at once while stopped. -/
def setBufferSize (s : Session σ) (value : UInt32) : Session σ :=
  let s := { s with desired.bufferSize := value }
  if s.running then s else (s.sendBufferSize s.id value).2

/-- Wants the sensor to stay on or not; always sent at once. Says what the daemon answered. -/
def setStandbyOverride (s : Session σ) (value : Bool) : Bool × Session σ :=
  let s := { s with desired.standbyOverride := value }
  let (reply, s) := s.sendStandbyOverride s.id value
  (Reply.valueOrDefault reply, s)

/-- What the daemon says while running, and what is wanted while stopped. -/
def effective (s : Session σ) (k : Kind) (name : String) (wanted : k.Carrier) :
    Reply k.Carrier × Session σ :=
  if s.running then s.property k name else (.ok wanted, s)

/-- The sampling interval. -/
def interval (s : Session σ) : Reply Int32 × Session σ :=
  s.effective .int "interval" s.desired.interval

/-- The buffer interval. -/
def bufferInterval (s : Session σ) : Reply UInt32 × Session σ :=
  s.effective .uint "bufferInterval" s.desired.bufferInterval

/-- The buffer size. -/
def bufferSize (s : Session σ) : Reply UInt32 × Session σ :=
  s.effective .uint "bufferSize" s.desired.bufferSize

/-- Whether the sensor stays on while the display is off. -/
def standbyOverride (s : Session σ) : Reply Bool × Session σ :=
  s.effective .bool "standbyOverride" s.desired.standbyOverride

/-! ## What the daemon knows -/

/-- The description of the sensor. -/
def description (s : Session σ) : Reply String × Session σ := s.property .str "description"

/-- The name of the sensor. -/
def sensorName (s : Session σ) : Reply String × Session σ := s.property .str "id"

/-- The type of the sensor. -/
def sensorType (s : Session σ) : Reply String × Session σ := s.property .str "type"

/-- The data ranges that can be selected. -/
def availableDataRanges (s : Session σ) : Reply (List DataRange) × Session σ :=
  s.call .ranges "getAvailableDataRanges" []

/-- The data range in use. -/
def currentDataRange (s : Session σ) : Reply DataRange × Session σ :=
  s.clearError.call .range "getCurrentDataRange" []

/-- Asks for a data range. -/
def requestDataRange (s : Session σ) (range : DataRange) : Reply Unit × Session σ :=
  s.clearError.call .unit "requestDataRange" [.int s.id, .range range]

/-- Takes the request for a data range back. -/
def removeDataRangeRequest (s : Session σ) : Reply Unit × Session σ :=
  s.clearError.call .unit "removeDataRangeRequest" [.int s.id]

/-- Selects a data range by its place in the list. Says whether the list has that place and the
range there has come into use. -/
def setDataRangeIndex (s : Session σ) (index : Int32) : Bool × Session σ :=
  let (_, s) := s.clearError.call .unit "setDataRangeIndex" [.int s.id, .int index]
  let (ranges, s) := s.availableDataRanges
  let wanted :=
    if index.toInt < 0 then none else (Reply.valueOrDefault ranges)[index.toInt.toNat]?
  match wanted with
  | none => (false, s)
  | some wanted =>
    let (current, s) := s.currentDataRange
    ((Reply.value? current).any fun range => range.numerEq wanted, s)

/-- The sampling intervals that can be set. -/
def availableIntervals (s : Session σ) : Reply (List DataRange) × Session σ :=
  s.call .ranges "getAvailableIntervals" []

/-- The buffer intervals that can be set. -/
def availableBufferIntervals (s : Session σ) : Reply (List IntegerRange) × Session σ :=
  s.call .integerRanges "getAvailableBufferIntervals" []

/-- The buffer sizes that can be set. -/
def availableBufferSizes (s : Session σ) : Reply (List IntegerRange) × Session σ :=
  s.call .integerRanges "getAvailableBufferSizes" []

/-- Whether the sensor has a buffer of its own. -/
def hwBuffering (s : Session σ) : Reply Bool × Session σ := s.call .bool "hwBuffering" []

/-- The local error if there is one, else the daemon's. -/
def errorCode (s : Session σ) : SensorError × Session σ :=
  if s.error.isSet then (s.error.code, s)
  else
    let (reply, s) := s.property .int "errorCodeInt"
    (Reply.valueOrDefault (reply.map SensorError.ofCode), s)

/-- The text of the local error if there is one, else the daemon's. -/
def errorString (s : Session σ) : String × Session σ :=
  if s.error.isSet then (s.error.message, s)
  else
    let (reply, s) := s.property .str "errorString"
    (Reply.valueOrDefault reply, s)

/-! ## Samples -/

/-- Fills a buffer with the next bytes, or leaves it as it is. -/
def read (s : Session σ) (buffer : Bytes) : Bool × Bytes × Session σ :=
  let (ok, buffer, reader) := s.reader.read buffer
  (ok, buffer, { s with reader })

/-- The number of bytes that can be read now. -/
def bytesAvailable (s : Session σ) : Nat := s.reader.bytesAvailable

/-- Has the bytes that have arrived decoded; gives the number of passes. -/
def dataReceived (s : Session σ) : Nat × Session σ :=
  let (passes, sink, reader) := s.decoder.drain s.sink s.reader
  (passes, { s with sink, reader })

/-- Records that the connection is lost. -/
def lose (s : Session σ) : Session σ := s.setError .clientSocketError "Socket connection lost."

/-- Waits for samples, for a limited time or for ever, and has them decoded. A session that is not
subscribed does not wait. -/
def processEvents (s : Session σ) (limit : Option Duration) : Dispatch × Session σ :=
  if !s.reader.subscribed then (.idle, s)
  else
    match s.reader.await limit with
    | (.ok .timeout, reader) => (.idle, { s with reader })
    | (.ok .readable, reader) =>
      let (passes, s) := { s with reader }.dataReceived
      (.delivered passes, s)
    | (.ok .hangup, reader) => (.disconnected, { s with reader }.lose)
    | (.error _, reader) => (.disconnected, { s with reader }.lose)

/-! ## State -/

/-- Whether the daemon can be reached over the bus. -/
def isValid (s : Session σ) : Bool := s.talk.bus.isValid .channel

/-- Whether samples can come. -/
def isConnected (s : Session σ) : Bool := s.reader.isConnected

/-- What the session is good for. -/
def state (s : Session σ) : ChannelState :=
  if s.released || !s.isConnected then .invalid
  else if s.running then .running
  else .idle

/-- The text for inspection. -/
def inspect (s : Session σ) : String :=
  "ChannelSession \x7b endpoint: " ++ s.endpoint.inspect
    ++ ", session_id: " ++ toString s.id.toInt
    ++ ", state: " ++ s.state.inspect
    ++ ", desired: " ++ s.desired.inspect
    ++ ", error: " ++ s.error.inspect ++ " \x7d"

/-! ## Closing -/

/-- Hands the session back if the daemon can be reached, and closes the connection. -/
def close (s : Session σ) : Session σ :=
  let s := if s.isValid then s.release.2 else s
  let (closed, reader) := s.reader.dropConnection
  let s := { s with reader }
  if closed then s else s.setError .clientSocketError "Socket disconnect failed."

end Session

end SensorClient
