import SensorClient.Command.Printer
import SensorClient.Command.Target
import SensorClient.Json.Number

/-!
# Options

An option may be given once in each place. A switch takes no value, and every other option takes
exactly one, which has to be of its kind.

## Main definitions

* `CommandOption`: the options, their names, and which of them are switches
* `Options`: the values given so far
* `Options.put`: gives one more, unless it is repeated or its value is refused
* `Numeral.read?`: a number in a range
-/

namespace SensorClient

/-- What an option settles. -/
inductive CommandOption where
  | format
  | logFormat
  | logLevel
  | interface
  | socket
  | service
  | bus
  | handshakeTimeout
  | interval
  | bufferInterval
  | bufferSize
  | standbyOverride
  | dataRangeIndex
  | recordSize
  | xyz
  | batch
  | count
  | timeout
  | poll
  | extended
deriving DecidableEq, Repr

namespace CommandOption

/-- The name of an option, which two dashes go before. -/
def name : CommandOption → String
  | format => "format"
  | logFormat => "log-format"
  | logLevel => "log-level"
  | interface => "interface"
  | socket => "socket"
  | service => "service"
  | bus => "bus"
  | handshakeTimeout => "handshake-timeout"
  | interval => "interval"
  | bufferInterval => "buffer-interval"
  | bufferSize => "buffer-size"
  | standbyOverride => "standby-override"
  | dataRangeIndex => "data-range-index"
  | recordSize => "record-size"
  | xyz => "xyz"
  | batch => "batch"
  | count => "count"
  | timeout => "timeout"
  | poll => "poll"
  | extended => "extended"

/-- Whether an option takes no value. -/
def isSwitch : CommandOption → Bool
  | standbyOverride | xyz | batch | extended => true
  | _ => false

/-- The options that every command takes. -/
def everywhere : List CommandOption := [format, logFormat, logLevel]

/-- The options that say where the daemon is. -/
def location : List CommandOption := [socket, service, bus, handshakeTimeout]

end CommandOption

namespace Numeral

/-- The number that digits with or without a sign stand for, if it is in the range. A minus is
only understood where `signed` allows it. -/
def readChars? (signed : Bool) (least most : Int) (text : List Char) : Option Int :=
  let (negative, digits) : Bool × List Char := match text with
    | '+' :: rest => (false, rest)
    | '-' :: rest => (signed, if signed then rest else text)
    | _ => (false, text)
  if digits.isEmpty || !digits.all Char.isDigit then none
  else
    let size : Int := Json.digitsValue digits
    let n := if negative then -size else size
    if least ≤ n ∧ n ≤ most then some n else none

@[inherit_doc readChars?]
def read? (signed : Bool) (least most : Int) (text : String) : Option Int :=
  readChars? signed least most text.toList

/-- A signed 32-bit number. -/
def int32? (text : String) : Option Int32 :=
  (read? true Int32.minValue.toInt Int32.maxValue.toInt text).map Int32.ofInt

/-- An unsigned 32-bit number; minus zero is one. -/
def uint32? (text : String) : Option UInt32 :=
  (read? true 0 (UInt32.size - 1) text).map fun n => UInt32.ofNat n.toNat

/-- A size of at most 64 bits, without a minus. -/
def size? (text : String) : Option Nat := (read? false 0 (UInt64.size - 1) text).map Int.toNat

end Numeral

/-- The values given so far, and the words that are no options. -/
structure Options where
  format : Option Format
  logFormat : Option String
  logLevel : Option String
  interface : Option String
  socket : Option String
  service : Option String
  bus : Option BusKind
  handshakeTimeout : Option String
  interval : Option Int32
  bufferInterval : Option UInt32
  bufferSize : Option UInt32
  standbyOverride : Option Unit
  dataRangeIndex : Option Int32
  recordSize : Option Nat
  xyz : Option Unit
  batch : Option Unit
  count : Option Nat
  timeout : Option String
  poll : Option String
  extended : Option Unit
  words : List String
deriving DecidableEq, Repr, Inhabited

namespace Options

/-- No value is given. -/
def empty : Options :=
  ⟨none, none, none, none, none, none, none, none, none, none, none, none, none, none, none, none,
    none, none, none, none, []⟩

/-- A value that is given for the first time. -/
def once {α : Type} (given value : Option α) : Option (Option α) :=
  match given with
  | some _ => none
  | none => value.map some

/-- One of some words. -/
def oneOf (words : List String) (value : String) : Option String :=
  if words.contains value then some value else none

/-- A text that is not empty. -/
def nonempty (value : String) : Option String := if value.isEmpty then none else some value

/-- Gives an option a value, unless it has one or the value is not of its kind. -/
def put (o : Options) (option : CommandOption) (value : String) : Option Options :=
  match option with
  | .format => (once o.format (Format.ofName? value)).map fun v => { o with format := v }
  | .logFormat =>
    (once o.logFormat (oneOf ["text", "json"] value)).map fun v => { o with logFormat := v }
  | .logLevel =>
    (once o.logLevel (oneOf ["error", "warn", "info", "debug", "trace"] value)).map fun v =>
      { o with logLevel := v }
  | .interface => (once o.interface (some value)).map fun v => { o with interface := v }
  | .socket => (once o.socket (nonempty value)).map fun v => { o with socket := v }
  | .service => (once o.service (some value)).map fun v => { o with service := v }
  | .bus => (once o.bus (BusKind.ofName? value)).map fun v => { o with bus := v }
  | .handshakeTimeout =>
    (once o.handshakeTimeout (some value)).map fun v => { o with handshakeTimeout := v }
  | .interval => (once o.interval (Numeral.int32? value)).map fun v => { o with interval := v }
  | .bufferInterval =>
    (once o.bufferInterval (Numeral.uint32? value)).map fun v => { o with bufferInterval := v }
  | .bufferSize =>
    (once o.bufferSize (Numeral.uint32? value)).map fun v => { o with bufferSize := v }
  | .standbyOverride =>
    (once o.standbyOverride (some ())).map fun v => { o with standbyOverride := v }
  | .dataRangeIndex =>
    (once o.dataRangeIndex (Numeral.int32? value)).map fun v => { o with dataRangeIndex := v }
  | .recordSize => (once o.recordSize (Numeral.size? value)).map fun v => { o with recordSize := v }
  | .xyz => (once o.xyz (some ())).map fun v => { o with xyz := v }
  | .batch => (once o.batch (some ())).map fun v => { o with batch := v }
  | .count => (once o.count (Numeral.size? value)).map fun v => { o with count := v }
  | .timeout => (once o.timeout (some value)).map fun v => { o with timeout := v }
  | .poll => (once o.poll (some value)).map fun v => { o with poll := v }
  | .extended => (once o.extended (some ())).map fun v => { o with extended := v }

end Options

end SensorClient
