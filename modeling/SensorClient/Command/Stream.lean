import SensorClient.Command.Opening
import SensorClient.Command.Printer

/-!
# Streaming samples

A session is opened, configured and started, and then goes on in turns. Each turn looks, in this
order, whether the command was interrupted, whether enough records are printed, and whether its
time is up; only then it waits for samples. However the turns end, the session is stopped before
it is closed, except where the command breaks down.

## Main definitions

* `StreamOptions`: what a client wants of a stream
* `StreamPlan`: the same with every text read
* `Session.configured`: the session as the options want it
* `streamTurns`: the turns, and why they ended
* `runStream`: the command
-/

namespace SensorClient

/-- What a client wants of a stream. -/
structure StreamOptions where
  layout : Layout
  batch : Bool
  interval : Option Int32
  bufferInterval : Option UInt32
  bufferSize : Option UInt32
  standbyOverride : Bool
  dataRangeIndex : Option Int32
  count : Option Nat
  timeout : Option String
  poll : String
deriving DecidableEq, Repr

/-- What a stream needs, with every text read. -/
structure StreamPlan where
  service : Service
  /-- How long each wait for samples may take. -/
  poll : Duration
  /-- How long the stream may take. -/
  limit : Option Duration
  interface : String
deriving DecidableEq, Repr

/-- Reads the texts of a stream in order; the first one that makes no sense is told. -/
def StreamOptions.plan? (o : StreamOptions) (location : Location) (sensor : Sensor) :
    Except Failure StreamPlan := do
  let service ← location.service?
  let poll ← Duration.wanted o.poll
  let limit ← match o.timeout with
    | none => .ok none
    | some text => (Duration.wanted text).map some
  let interface ← sensor.interface?
  if o.layout.size = 0 then .error ⟨.usage, "record size must be greater than zero"⟩
  else .ok ⟨service, poll, limit, interface⟩

/-- The session with everything wanted that the options give. -/
def Session.configured {σ : Type} (s : Session σ) (o : StreamOptions) : Session σ :=
  let s := match o.interval with
    | some n => s.setInterval n
    | none => s
  let s := match o.bufferInterval with
    | some n => s.setBufferInterval n
    | none => s
  let s := match o.bufferSize with
    | some n => s.setBufferSize n
    | none => s
  let s := if o.standbyOverride then (s.setStandbyOverride true).2 else s
  match o.dataRangeIndex with
  | some n => (s.setDataRangeIndex n).2
  | none => s

/-- Why the turns ended. -/
inductive TurnsEnd where
  | interrupted
  /-- As many records are printed as were asked for. -/
  | met
  | expired
  | disconnected
  /-- A read never came back. -/
  | halted (h : Halt)
  /-- Nothing else is known to happen. -/
  | unfinished
deriving DecidableEq, Repr

/-- What the daemon does in a turn. -/
def Turn.act (turn : Turn) (link : Link) : Link :=
  let link := (link.feed turn.arrival).2
  if turn.hangsUp then link.hangUp else link

/-- The turns of a stream: the session in the end, and why they ended. `timed` tells whether the
stream has a limit at all. -/
def streamTurns (p : Printer) (poll : Duration) (timed : Bool) :
    List Turn → Session Printout → TurnsEnd × Session Printout
  | [], s => (.unfinished, s)
  | turn :: rest, s =>
    if turn.interrupted then (.interrupted, s)
    else if p.isMet s.sink then (.met, s)
    else if timed && turn.expired then (.expired, s)
    else
      let (dispatch, s) := { s with reader := s.reader.onLink turn.act }.processEvents (some poll)
      match s.reader.halted with
      | some halt => (.halted halt, s)
      | none =>
        if dispatch = .disconnected then (.disconnected, s)
        else streamTurns p poll timed rest s

/-- How the command ends when its time is up. -/
def deadlineEnding (printed : Nat) : Option Nat → Ending
  | some count =>
    if printed < count then
      .failure ⟨.timeout, s!"received {printed} of {count} records before the deadline"⟩
    else .exit .success
  | none => .exit .success

/-- Whether a moment so far ahead cannot be told on the clock, which counts seconds in a signed
64-bit word. -/
def overflowsClock (clock limit : Duration) : Bool :=
  Int64.maxValue.toInt < (Duration.mk (clock.nanoseconds + limit.nanoseconds)).seconds

/-- Lets a session that has started go through its turns; gives the end of the command and the
session then. -/
def streamStarted (host : Host) (p : Printer) (plan : StreamPlan) (s : Session Printout) :
    Ending × Session Printout :=
  if plan.limit.any (overflowsClock host.clock) then (.breakdown, s.close)
  else
    match streamTurns p plan.poll plan.limit.isSome host.turns s with
    | (.interrupted, s) | (.met, s) => (.exit .success, s.stop.2.close)
    | (.expired, s) => (deadlineEnding s.sink.count p.limit, s.stop.2.close)
    | (.disconnected, s) =>
      let (text, s) := s.errorString
      (.failure ⟨.transportError, s!"sample stream ended: {text}"⟩, s.stop.2.close)
    | (.halted .oversized, s) => (.breakdown, s.close)
    | (.halted .waiting, s) | (.unfinished, s) => (.endless, s)

/-- Configures and starts a session and lets it stream. A stream that could not be interrupted is
not started. -/
def streamSession (host : Host) (o : StreamOptions) (p : Printer) (plan : StreamPlan)
    (s : Session Printout) : Ending × Session Printout :=
  if !s.isConnected then
    let (text, s) := s.errorString
    (.failure ⟨.transportError, s!"{plan.service.socket.path}: {text}"⟩, s.close)
  else
    let s := s.configured o
    match host.interrupts with
    | .error reason => (.failure ⟨.internal, s!"signal handler setup failed: {reason}"⟩, s.close)
    | .ok () =>
      match s.start with
      | (.error e, s) => (.failure (.ofBus "start failed" e), s.close)
      | (.ok (), s) => streamStarted host p plan s

/-- Starts a sensor and prints the records it delivers. -/
def runStream (host : Host) (format : Format) (location : Location) (sensor : Sensor)
    (o : StreamOptions) : Execution :=
  match o.plan? location sensor with
  | .error f => .refused f
  | .ok plan =>
    let p : Printer := ⟨sensor.name, o.layout, o.count, format⟩
    let sent := sentMessages host plan.service sensor.name plan.interface
    match openSession host plan.service sensor.name (p.decoder plan.interface o.batch) .empty with
    | .error (f, talk) => ⟨[], .failure f, sent talk, []⟩
    | .ok s =>
      let (ending, s) := streamSession host o p plan s
      ⟨s.sink.output, ending, sent s.talk, s.links⟩

end SensorClient
