import SensorClient.Bytes
import SensorClient.Double.Text
import SensorClient.Json

/-!
# Writing JSON

Values are written without any space. Strings are escaped as little as the format allows: the
quote, the backslash and the control characters, five of which have short escapes.

## Main definitions

* `Json.ofDouble`: a number, or null where a number has no written form
* `Json.write`: the written form of a value
-/

namespace SensorClient.Json

/-- A number with a fraction or an exponent; NaN and the infinities are null. -/
def ofDouble (d : Double) : Json := ofOption num d.exchangeText?

/-- A character inside a string. -/
def escaped (c : Char) : List Char :=
  if c = '"' ∨ c = '\\' then ['\\', c]
  else if c = '\x08' then ['\\', 'b']
  else if c = '\t' then ['\\', 't']
  else if c = '\n' then ['\\', 'n']
  else if c = '\x0c' then ['\\', 'f']
  else if c = '\r' then ['\\', 'r']
  else if c.toNat < 32 then
    ['\\', 'u', '0', '0', Bytes.hexDigit (c.toNat / 16), Bytes.hexDigit (c.toNat % 16)]
  else [c]

/-- A string with its quotes. -/
def writeText (text : String) : List Char :=
  ['"'] ++ text.toList.flatMap escaped ++ ['"']

mutual

/-- The characters of a value. A string without a text is written as the empty string. -/
def writeChars : Json → List Char
  | null => "null".toList
  | bool b => (if b then "true" else "false").toList
  | num literal => literal.toList
  | str text => writeText (text.getD "")
  | arr items => ['['] ++ writeItems items ++ [']']
  | obj members => ['\x7b'] ++ writeMembers members ++ ['\x7d']

/-- The items of an array, separated by commas. -/
def writeItems : List Json → List Char
  | [] => []
  | [item] => writeChars item
  | item :: rest => writeChars item ++ [','] ++ writeItems rest

/-- The members of an object, separated by commas. -/
def writeMembers : List (Option String × Json) → List Char
  | [] => []
  | [member] => writeText (member.1.getD "") ++ [':'] ++ writeChars member.2
  | member :: rest =>
    writeText (member.1.getD "") ++ [':'] ++ writeChars member.2 ++ [','] ++ writeMembers rest

end

/-- The written form of a value. -/
def write (value : Json) : String := String.ofList value.writeChars

end SensorClient.Json
