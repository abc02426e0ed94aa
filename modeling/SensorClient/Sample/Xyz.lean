import SensorClient.Bytes
import SensorClient.Json

/-!
# Samples of three axes

A sample takes twenty-four bytes: the time in eight, each axis in four, and four that say nothing.

## Main definitions

* `XyzSample`
* `XyzSample.decode?`: the sample at the start of a record
* `XyzSample.encode`: the bytes of a sample that say something
-/

namespace SensorClient

/-- A measurement along three axes. -/
structure XyzSample where
  timestamp : UInt64
  x : Int32
  y : Int32
  z : Int32
deriving DecidableEq, Repr

namespace XyzSample

/-- The bytes of a record. -/
def size : Nat := 24

/-- The time and the axes, least significant bytes first. -/
def encode (s : XyzSample) : Bytes :=
  Bytes.ofUInt64 s.timestamp ++ Bytes.ofInt32 s.x ++ Bytes.ofInt32 s.y ++ Bytes.ofInt32 s.z

/-- The sample at the start of a record; a record that is too short holds none. -/
def decode? (record : Bytes) : Option XyzSample :=
  if record.length < size then none
  else some
    { timestamp := Bytes.toUInt64 (record.take 8)
      x := Bytes.toInt32 ((record.drop 8).take 4)
      y := Bytes.toInt32 ((record.drop 12).take 4)
      z := Bytes.toInt32 ((record.drop 16).take 4) }

/-- The document form. -/
def toMembers (s : XyzSample) : List (String × Json) :=
  [("timestamp", .ofNat s.timestamp.toNat), ("x", .ofInt s.x.toInt), ("y", .ofInt s.y.toInt),
    ("z", .ofInt s.z.toInt)]

end XyzSample

end SensorClient
