import SensorClient.Command.Opening
import SensorClient.Report.Info

/-!
# Telling what is known of a sensor

## Main definitions

* `Session.collectInfo`: asks a session for everything
* `runInfo`: the command
-/

namespace SensorClient

/-- Asks a session for everything that is known of its sensor. The error is asked for first,
because other questions clear it. -/
def Session.collectInfo {σ : Type} (s : Session σ) (sensor interface : String) :
    SensorInfo × Session σ :=
  let (code, s) := s.errorCode
  let (error, s) := s.errorString
  let (description, s) := s.description
  let (id, s) := s.sensorName
  let (sensorType, s) := s.sensorType
  let (hwBuffering, s) := s.hwBuffering
  let (currentDataRange, s) := s.currentDataRange
  let (dataRanges, s) := s.availableDataRanges
  let (intervals, s) := s.availableIntervals
  let (bufferIntervals, s) := s.availableBufferIntervals
  let (bufferSizes, s) := s.availableBufferSizes
  ({ sensor, interface
     session := s.id
     state := s.state
     description := description.value?
     id := id.value?
     sensorType := sensorType.value?
     desired := s.desired
     hwBuffering := Reply.value? hwBuffering
     currentDataRange := Reply.value? currentDataRange
     dataRanges := Reply.valueOrDefault dataRanges
     intervals := Reply.valueOrDefault intervals
     bufferIntervals := Reply.valueOrDefault bufferIntervals
     bufferSizes := Reply.valueOrDefault bufferSizes
     errorCode := code.code
     error }, s)

/-- Opens a session on a sensor and prints what is known of it. The samples are never looked at. -/
def runInfo (host : Host) (format : Format) (location : Location) (sensor : Sensor) : Execution :=
  match (do return (← location.service?, ← sensor.interface?) : Except Failure _) with
  | .error f => .refused f
  | .ok (service, interface) =>
    let sent := sentMessages host service sensor.name interface
    let decoder : Decoder Unit := .fixed interface 1 fun _ _ => ()
    match openSession host service sensor.name decoder () with
    | .error (f, talk) => ⟨[], .failure f, sent talk, []⟩
    | .ok s =>
      let (info, s) := s.collectInfo sensor.name interface
      let s := s.close
      ⟨info.print format, .exit .success, sent s.talk, s.links⟩

end SensorClient
