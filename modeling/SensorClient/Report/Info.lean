import SensorClient.Control.Range
import SensorClient.Report.Record
import SensorClient.Session.Desired
import SensorClient.Session.SensorError

/-!
# What is known of a sensor

## Main definitions

* `SensorInfo`: what the daemon says of a sensor, and what the session wants of it
* `SensorInfo.print`: the report
-/

namespace SensorClient

/-- What is known of a sensor through a session on it. What the daemon did not say is missing. -/
structure SensorInfo where
  sensor : String
  interface : String
  session : Int32
  state : ChannelState
  description : Option String
  id : Option String
  sensorType : Option String
  desired : Desired
  hwBuffering : Option Bool
  currentDataRange : Option DataRange
  dataRanges : List DataRange
  intervals : List DataRange
  bufferIntervals : List IntegerRange
  bufferSizes : List IntegerRange
  errorCode : Int32
  error : String

namespace SensorInfo

/-- The members of the document. -/
def toMembers (i : SensorInfo) : List (String × Json) :=
  [("schema_id", Report.schema "sensor-info"), ("sensor", .ofText i.sensor),
    ("interface", .ofText i.interface), ("session_id", .ofInt i.session.toInt),
    ("state", .ofText i.state.name), ("description", .ofOption .ofText i.description),
    ("id", .ofOption .ofText i.id), ("sensor_type", .ofOption .ofText i.sensorType),
    ("desired", i.desired.toJson), ("hw_buffering", .ofOption .bool i.hwBuffering),
    ("current_data_range", .ofOption DataRange.toJson i.currentDataRange),
    ("data_ranges", .arr (i.dataRanges.map DataRange.toJson)),
    ("intervals", .arr (i.intervals.map DataRange.toJson)),
    ("buffer_intervals", .arr (i.bufferIntervals.map IntegerRange.toJson)),
    ("buffer_sizes", .arr (i.bufferSizes.map IntegerRange.toJson)),
    ("error_code", .ofInt i.errorCode.toInt), ("error", .ofText i.error)]

/-- The text of a value that may be missing. -/
def shown {α : Type} (text : α → String) (value : Option α) : String :=
  (value.map text).getD "unavailable"

/-- The text of a list. -/
def listed {α : Type} (text : α → String) (values : List α) : String :=
  if values.isEmpty then "none" else ", ".intercalate (values.map text)

/-- The fields and their values as people read them. -/
def rows (i : SensorInfo) : List (String × String) :=
  [("Sensor", i.sensor), ("Interface", i.interface), ("Session", toString i.session.toInt),
    ("State", i.state.inspect), ("Description", shown toString i.description),
    ("Id", shown toString i.id), ("Type", shown toString i.sensorType), ("Desired interval", toString i.desired.interval.toInt),
    ("Desired buffer interval", toString i.desired.bufferInterval.toNat),
    ("Desired buffer size", toString i.desired.bufferSize.toNat),
    ("Desired standby", toString i.desired.standbyOverride),
    ("HW buffering", shown toString i.hwBuffering),
    ("Data range", shown DataRange.text i.currentDataRange),
    ("Data ranges", listed DataRange.text i.dataRanges),
    ("Intervals", listed DataRange.text i.intervals),
    ("Buffer intervals", listed IntegerRange.text i.bufferIntervals),
    ("Buffer sizes", listed IntegerRange.text i.bufferSizes),
    ("Error", s!"{i.errorCode.toInt} {i.error}")]

/-- The report. -/
def print (i : SensorInfo) : Format → Bytes
  | .json => Report.document i.toMembers
  | .table => Report.fields i.rows
  | .pretty =>
    Report.lines ("Sensor Info:" :: i.rows.map fun (name, value) =>
      "  " ++ Report.padded 20 (name ++ ":") ++ value)
  | .raw => Report.line (toString i.session.toInt)

end SensorInfo

end SensorClient
