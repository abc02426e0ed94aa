import SensorClient.Report.Format
import SensorClient.Report.Table
import SensorClient.Sample.Xyz

/-!
# Printing records

Records are printed as they come, each with its place in the sequence. A record of three axes can
be printed as the sample it holds. The bare form of any other record is its bytes and nothing else,
so that bare records can be put together again.

## Main definitions

* `Report.sample`: a sample of three axes
* `Report.record`: a record of bytes
* `Report.fields`: a table of names and values
-/

namespace SensorClient.Report

/-- A sample of three axes and its place in the sequence. -/
def sample (sensor : String) (sequence : Nat) (s : XyzSample) : Format → Bytes
  | .json =>
    document ([("schema_id", schema "xyz-sample"), ("sensor", .ofText sensor),
      ("sequence", .ofNat sequence)] ++ s.toMembers)
  | .table =>
    line (Table.draw ⟨["SEQ", "TIMESTAMP", "X", "Y", "Z"],
      [[toString sequence, toString s.timestamp.toNat, toString s.x.toInt, toString s.y.toInt,
        toString s.z.toInt]]⟩)
  | .pretty =>
    line s!"#{sequence} t={s.timestamp.toNat} x={s.x.toInt} y={s.y.toInt} z={s.z.toInt}"
  | .raw => line s!"{s.timestamp.toNat} {s.x.toInt} {s.y.toInt} {s.z.toInt}"

/-- A record of bytes and its place in the sequence. -/
def record (sensor : String) (sequence : Nat) (bytes : Bytes) : Format → Bytes
  | .json =>
    document [("schema_id", schema "sample-record"), ("sensor", .ofText sensor),
      ("sequence", .ofNat sequence), ("size", .ofNat bytes.length),
      ("record", .ofText bytes.toHex)]
  | .table =>
    line (Table.draw ⟨["SEQ", "SIZE", "RECORD"],
      [[toString sequence, toString bytes.length, bytes.toHex]]⟩)
  | .pretty => line s!"#{sequence} size={bytes.length} record={bytes.toHex}"
  | .raw => bytes

/-- A table of names and values. -/
def fields (rows : List (String × String)) : Bytes :=
  line (Table.draw ⟨["FIELD", "VALUE"], rows.map fun row => [row.1, row.2]⟩)

end SensorClient.Report
