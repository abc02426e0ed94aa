import SensorClient.Json.Number
import SensorClient.Json.Writer

/-!
# Measurement ranges

A data range is what a sensor can measure and how finely. An integer range bounds a setting, both
ends included. In documents a range is an object with one member per field; it is read from such
an object, whatever else the object holds, or from an array of exactly the fields.

## Main definitions

* `DataRange`, `IntegerRange`
* `DataRange.numerEq`: equality of the fields as numbers
* `DataRange.text`, `IntegerRange.text`: the text shown to people
* `DataRange.toJson`, `DataRange.ofJson?` and the same for integer ranges: the document forms
-/

namespace SensorClient

/-- Measurements lie between two bounds and are multiples of a resolution. -/
structure DataRange where
  min : Double
  max : Double
  resolution : Double
deriving DecidableEq, Repr, Inhabited

/-- Settings lie between two bounds, both included. -/
structure IntegerRange where
  min : UInt32
  max : UInt32
deriving DecidableEq, Repr, Inhabited

/-- The values of the named fields, in the order of the names: the items of an array, or the
members of an object. A field that is missing or given twice has no value, and neither has any
field when a member's name is no text. -/
def Json.fields? (names : List String) : Json → Option (List Json)
  | .arr items => if items.length = names.length then some items else none
  | .obj members =>
    if members.any fun member => member.1.isNone then none
    else names.mapM fun name =>
      match members.filter fun member => member.1 == some name with
      | [member] => some member.2
      | _ => none
  | _ => none

/-- The double that a number stands for. -/
def Json.toDouble? : Json → Option Double
  | .num literal => literalDouble? literal.toList
  | _ => none

/-- The 32-bit word that a number stands for. -/
def Json.toUInt32? : Json → Option UInt32
  | .num literal => (literalWord? UInt32.size literal.toList).map UInt32.ofNat
  | _ => none

namespace DataRange

/-- Equality of the fields as numbers. -/
def numerEq (a b : DataRange) : Bool :=
  a.min.numerEq b.min && a.max.numerEq b.max && a.resolution.numerEq b.resolution

/-- The bounds in brackets, then the resolution. -/
def text (r : DataRange) : String :=
  s!"[{r.min.plainText}, {r.max.plainText}] @ {r.resolution.plainText}"

/-- The document form. -/
def toJson (r : DataRange) : Json :=
  .ofMembers [("min", .ofDouble r.min), ("max", .ofDouble r.max),
    ("resolution", .ofDouble r.resolution)]

/-- Reads the document form. -/
def ofJson? (value : Json) : Option DataRange := do
  match ← (← value.fields? ["min", "max", "resolution"]).mapM Json.toDouble? with
  | [min, max, resolution] => some ⟨min, max, resolution⟩
  | _ => none

/-- The range that a text holds in its document form. -/
def read? (text : String) : Option DataRange := (Json.read? text).bind ofJson?

end DataRange

namespace IntegerRange

/-- Whether a value lies in the range. -/
def contains (r : IntegerRange) (value : UInt32) : Bool := r.min ≤ value && value ≤ r.max

/-- The bounds in brackets. -/
def text (r : IntegerRange) : String := s!"[{r.min.toNat}, {r.max.toNat}]"

/-- The document form. -/
def toJson (r : IntegerRange) : Json :=
  .ofMembers [("min", .ofNat r.min.toNat), ("max", .ofNat r.max.toNat)]

/-- Reads the document form. -/
def ofJson? (value : Json) : Option IntegerRange := do
  match ← (← value.fields? ["min", "max"]).mapM Json.toUInt32? with
  | [min, max] => some ⟨min, max⟩
  | _ => none

/-- The range that a text holds in its document form. -/
def read? (text : String) : Option IntegerRange := (Json.read? text).bind ofJson?

end IntegerRange

end SensorClient
