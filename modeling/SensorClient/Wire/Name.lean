import SensorClient.Text.Split

/-!
# Names on the bus

## Main definitions

* `Name.isBusName`, `Name.isPath`, `Name.isInterface`, `Name.isMember`: the well-formed names
-/

namespace SensorClient.Name

/-- An ASCII letter, a digit or an underscore. -/
def isWordChar (c : Char) : Bool := c.isAlphanum || c == '_'

/-- A part of an interface name: word characters, the first one no digit. -/
def isWord : List Char → Bool
  | [] => false
  | c :: rest => !c.isDigit && isWordChar c && rest.all isWordChar

/-- A part of a bus name, which may hold dashes as well; `digitFirst` lets it start with a
digit. -/
def isBusPart (digitFirst : Bool) : List Char → Bool
  | [] => false
  | c :: rest =>
    let allowed := fun c => isWordChar c || c == '-'
    (digitFirst || !c.isDigit) && allowed c && rest.all allowed

/-- The longest name in bytes. -/
def maxLength : Nat := 255

/-- Whether a text has at least two parts between dots, each well formed. -/
def isDotted (wellFormed : List Char → Bool) (text : List Char) : Bool :=
  let found := Text.split '.' text
  2 ≤ found.length && found.all wellFormed

/-- A bus name: dotted, and with digits at the start of its parts only after a colon. -/
def isBusName (name : String) : Bool :=
  name.utf8ByteSize ≤ maxLength &&
    match name.toList with
    | ':' :: rest => isDotted (isBusPart true) rest
    | text => isDotted (isBusPart false) text

/-- An object path: a slash, or slashes each with a part of word characters after it. -/
def isPath (path : String) : Bool :=
  match path.toList with
  | ['/'] => true
  | '/' :: rest => (Text.split '/' rest).all fun part => !part.isEmpty && part.all isWordChar
  | _ => false

/-- An interface name: dotted words. -/
def isInterface (name : String) : Bool :=
  name.utf8ByteSize ≤ maxLength && isDotted isWord name.toList

/-- A member name: one word. -/
def isMember (name : String) : Bool := name.utf8ByteSize ≤ maxLength && isWord name.toList

/-- Whether a text can be sent: it holds no null. -/
def isSendable (text : String) : Bool := !text.toList.contains '\x00'

end SensorClient.Name
