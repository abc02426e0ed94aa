import SensorClient.Text.Blank
import SensorClient.Json.Number

/-!
# Lengths of time

A length of time is written as a whole number with `ms` for milliseconds or `s` for seconds after
it; without either it counts seconds. It is never zero.

## Main definitions

* `Duration`
* `Duration.read?`: the length of time that a text gives
* `DurationFault`: why a text gives none
-/

namespace SensorClient

/-- A length of time. -/
structure Duration where
  nanoseconds : Nat
deriving DecidableEq, Repr, Inhabited

namespace Duration

/-- So many milliseconds. -/
def ofMilliseconds (n : Nat) : Duration := ⟨n * 1000000⟩

/-- So many seconds. -/
def ofSeconds (n : Nat) : Duration := ⟨n * 1000000000⟩

/-- The whole seconds. -/
def seconds (d : Duration) : Nat := d.nanoseconds / 1000000000

/-- The nanoseconds beyond the whole seconds. -/
def subseconds (d : Duration) : Nat := d.nanoseconds % 1000000000

/-- The whole milliseconds. -/
def milliseconds (d : Duration) : Nat := d.nanoseconds / 1000000

/-- No time at all. -/
def isZero (d : Duration) : Bool := d.nanoseconds == 0

end Duration

/-- Why a text gives no length of time. -/
inductive DurationFault where
  | empty
  | invalid (text : String)
  | zero
deriving DecidableEq, Repr

/-- The wording of a fault. -/
def DurationFault.message : DurationFault → String
  | empty => "duration must not be empty"
  | invalid text => s!"invalid duration value: {text}"
  | zero => "duration must be greater than zero"

/-- A unit of time and its text. -/
inductive TimeUnit where
  | milliseconds
  | seconds
deriving DecidableEq, Repr

/-- So many of a unit. -/
def TimeUnit.times : TimeUnit → Nat → Duration
  | milliseconds, n => .ofMilliseconds n
  | seconds, n => .ofSeconds n

/-- The text of a unit. -/
def TimeUnit.text : TimeUnit → List Char
  | milliseconds => ['m', 's']
  | seconds => ['s']

namespace Duration

/-- What comes before the unit at the end, and the unit; seconds if none is written. -/
def splitUnit (text : List Char) : List Char × TimeUnit :=
  match text.reverse with
  | 's' :: 'm' :: rest => (rest.reverse, .milliseconds)
  | 's' :: rest => (rest.reverse, .seconds)
  | _ => (text, .seconds)

/-- The 64-bit number that digits stand for, a plus sign before them being allowed. -/
def readCount? (text : List Char) : Option Nat :=
  match text with
  | '+' :: rest => Json.literalWord? UInt64.size rest
  | _ => Json.literalWord? UInt64.size text

/-- The length of time that characters give, blanks around them aside. -/
def readChars (text : List Char) : Except DurationFault Duration :=
  let body := Text.strip text
  if body = [] then .error .empty
  else
    let (digits, unit) := splitUnit body
    match readCount? digits with
    | none => .error (.invalid (String.ofList body))
    | some 0 => .error .zero
    | some count => .ok (unit.times count)

/-- The length of time that a text gives. -/
def read (text : String) : Except DurationFault Duration := readChars text.toList

end Duration

end SensorClient
