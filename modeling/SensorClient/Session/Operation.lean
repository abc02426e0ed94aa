import SensorClient.Session.Channel

/-!
# Runs of a session

Everything that a client can do with a session is an operation. What can happen to it besides is
something the daemon does on the sample connection, or the loss of the client's descriptor. A run
is a sequence of these.

## Main definitions

* `Op`, `Session.perform`: the operations, what each gives back and what it changes
* `Event`, `Session.step`, `Session.run`: operations and the daemon's doings, in any order
-/

namespace SensorClient

/-- What a client can do with a session. -/
inductive Op where
  | start
  | stop
  | startWith (id : Int32)
  | stopWith (id : Int32)
  | release
  | sendInterval (id : Int32) (value : Int32)
  | sendBufferInterval (id : Int32) (value : UInt32)
  | sendBufferSize (id : Int32) (value : UInt32)
  | sendStandbyOverride (id : Int32) (value : Bool)
  | setInterval (value : Int32)
  | setBufferInterval (value : UInt32)
  | setBufferSize (value : UInt32)
  | setStandbyOverride (value : Bool)
  | interval
  | bufferInterval
  | bufferSize
  | standbyOverride
  | description
  | sensorName
  | sensorType
  | sessionId
  | availableDataRanges
  | currentDataRange
  | requestDataRange (range : DataRange)
  | removeDataRangeRequest
  | setDataRangeIndex (index : Int32)
  | availableIntervals
  | availableBufferIntervals
  | availableBufferSizes
  | hwBuffering
  | errorCode
  | errorString
  | setError (code : SensorError) (message : String)
  | clearError
  | addListener
  | read (buffer : Bytes)
  | bytesAvailable
  | dataReceived
  | processEvents (limit : Option Duration)
deriving DecidableEq, Repr

/-- What an operation gives back. -/
inductive Outcome where
  | nothing
  | reply (k : Kind) (reply : Reply k.Carrier)
  | flag (b : Bool)
  | id (n : Int32)
  | count (n : Nat)
  | text (s : String)
  | error (e : SensorError)
  | filled (ok : Bool) (buffer : Bytes)
  | dispatch (d : Dispatch)

/-- What happens to a session. -/
inductive Event where
  /-- The client does something. -/
  | op (op : Op)
  /-- The daemon sends bytes. -/
  | feed (bytes : Bytes)
  /-- The daemon stops sending. -/
  | shutdown
  /-- The daemon closes its end. -/
  | hangUp
  /-- The client's descriptor becomes invalid. -/
  | breakDescriptor
deriving DecidableEq, Repr

namespace Session

variable {σ : Type}

/-- The same session, with what came of an operation as its outcome. -/
def giving {α : Type} (outcome : α → Outcome) (found : α × Session σ) : Outcome × Session σ :=
  (outcome found.1, found.2)

/-- What an operation gives back, and the session after it. -/
def perform (s : Session σ) : Op → Outcome × Session σ
  | .start => giving (.reply .unit) s.start
  | .stop => giving (.reply .unit) s.stop
  | .startWith n => giving (.reply .unit) (s.startWith n)
  | .stopWith n => giving (.reply .unit) (s.stopWith n)
  | .release => giving .flag s.release
  | .sendInterval n value => giving (.reply .unit) (s.sendInterval n value)
  | .sendBufferInterval n value => giving (.reply .unit) (s.sendBufferInterval n value)
  | .sendBufferSize n value => giving (.reply .unit) (s.sendBufferSize n value)
  | .sendStandbyOverride n value => giving (.reply .bool) (s.sendStandbyOverride n value)
  | .setInterval value => (.nothing, s.setInterval value)
  | .setBufferInterval value => (.nothing, s.setBufferInterval value)
  | .setBufferSize value => (.nothing, s.setBufferSize value)
  | .setStandbyOverride value => giving .flag (s.setStandbyOverride value)
  | .interval => giving (.reply .int) s.interval
  | .bufferInterval => giving (.reply .uint) s.bufferInterval
  | .bufferSize => giving (.reply .uint) s.bufferSize
  | .standbyOverride => giving (.reply .bool) s.standbyOverride
  | .description => giving (.reply .str) s.description
  | .sensorName => giving (.reply .str) s.sensorName
  | .sensorType => giving (.reply .str) s.sensorType
  | .sessionId => (.id s.id, s)
  | .availableDataRanges => giving (.reply .ranges) s.availableDataRanges
  | .currentDataRange => giving (.reply .range) s.currentDataRange
  | .requestDataRange range => giving (.reply .unit) (s.requestDataRange range)
  | .removeDataRangeRequest => giving (.reply .unit) s.removeDataRangeRequest
  | .setDataRangeIndex index => giving .flag (s.setDataRangeIndex index)
  | .availableIntervals => giving (.reply .ranges) s.availableIntervals
  | .availableBufferIntervals => giving (.reply .integerRanges) s.availableBufferIntervals
  | .availableBufferSizes => giving (.reply .integerRanges) s.availableBufferSizes
  | .hwBuffering => giving (.reply .bool) s.hwBuffering
  | .errorCode => giving .error s.errorCode
  | .errorString => giving .text s.errorString
  | .setError code message => (.nothing, s.setError code message)
  | .clearError => (.nothing, s.clearError)
  | .addListener => giving .count s.addListener
  | .read buffer =>
    let (ok, buffer, s) := s.read buffer
    (.filled ok buffer, s)
  | .bytesAvailable => (.count s.bytesAvailable, s)
  | .dataReceived => giving .count s.dataReceived
  | .processEvents limit => giving .dispatch (s.processEvents limit)

/-- Something happens to the sample connection. -/
def onLink (s : Session σ) (act : Link → Link) : Session σ :=
  { s with reader := s.reader.onLink act }

/-- The session after an event. -/
def step (s : Session σ) : Event → Session σ
  | .op op => (s.perform op).2
  | .feed bytes => s.onLink fun link => (link.feed bytes).2
  | .shutdown => s.onLink Link.shutdown
  | .hangUp => s.onLink Link.hangUp
  | .breakDescriptor => s.onLink Link.breakDescriptor

/-- The session after a sequence of events. -/
def run (s : Session σ) (events : List Event) : Session σ := events.foldl step s

@[simp] theorem run_nil (s : Session σ) : s.run [] = s := rfl

@[simp] theorem run_append (s : Session σ) (before after : List Event) :
    s.run (before ++ after) = (s.run before).run after := by
  simp [run]

end Session

end SensorClient
