import SensorClient.Json

/-!
# The desired configuration and the state of a session

## Main definitions

* `Desired`: the settings that a client wants while its session runs
* `ChannelState`: idle, running, or of no more use
-/

namespace SensorClient

/-- The settings that a client wants while its session runs. -/
structure Desired where
  interval : Int32
  bufferInterval : UInt32
  bufferSize : UInt32
  standbyOverride : Bool
deriving DecidableEq, Repr

namespace Desired

/-- Nothing in particular, and a buffer of one sample. -/
def initial : Desired := ⟨0, 0, 1, false⟩

instance : Inhabited Desired := ⟨initial⟩

/-- The document form. -/
def toJson (d : Desired) : Json :=
  .ofMembers [("interval", .ofInt d.interval.toInt),
    ("buffer_interval", .ofNat d.bufferInterval.toNat), ("buffer_size", .ofNat d.bufferSize.toNat),
    ("standby_override", .bool d.standbyOverride)]

/-- The text for inspection. -/
def inspect (d : Desired) : String :=
  "DesiredConfig \x7b interval: " ++ toString d.interval.toInt
    ++ ", buffer_interval: " ++ toString d.bufferInterval.toNat
    ++ ", buffer_size: " ++ toString d.bufferSize.toNat
    ++ ", standby_override: " ++ toString d.standbyOverride ++ " \x7d"

end Desired

/-- What a session is good for. -/
inductive ChannelState where
  | idle
  | running
  | invalid
deriving DecidableEq, Repr

namespace ChannelState

/-- The name of a state in documents. -/
def name : ChannelState → String
  | idle => "idle"
  | running => "running"
  | invalid => "invalid"

/-- The name of a state for people. -/
def inspect : ChannelState → String
  | idle => "Idle"
  | running => "Running"
  | invalid => "Invalid"

end ChannelState

end SensorClient
