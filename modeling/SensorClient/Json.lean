/-!
# JSON values

A number is kept as it is written, because what it stands for depends on who reads it. A string
may name half of a surrogate pair; such a string has no text, and a reader who needs the text
refuses it. An object keeps its members in order and may name a member twice.

## Main definitions

* `Json`
* `Json.ofText`, `Json.ofNat`, `Json.ofInt`, `Json.ofOption`: values for common data
-/

namespace SensorClient

/-- A JSON value as it is written. -/
inductive Json where
  | null
  | bool (b : Bool)
  | num (literal : String)
  | str (text : Option String)
  | arr (items : List Json)
  | obj (members : List (Option String × Json))

namespace Json

/-- A string that has a text. -/
def ofText (text : String) : Json := str (some text)

/-- A whole number. -/
def ofNat (n : Nat) : Json := num (toString n)

/-- A whole number with its sign. -/
def ofInt (n : Int) : Json := num (toString n)

/-- A value, or null for none. -/
def ofOption {α : Type} (write : α → Json) : Option α → Json
  | none => null
  | some a => write a

/-- An object whose members have these names. -/
def ofMembers (members : List (String × Json)) : Json :=
  obj (members.map fun member => (some member.1, member.2))

end Json

end SensorClient
