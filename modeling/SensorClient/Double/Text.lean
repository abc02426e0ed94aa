import SensorClient.Double.Shortest

/-!
# The two texts of a double

Both texts show the shortest digits that read back. The plain text takes the upper one of two
equally near decimals, never uses an exponent and shows whole numbers without a point. The exchange
text takes the even one, marks every number as a fraction, turns to an exponent when the leading
digit stands below the fifth place after the point or above the sixteenth before it, and has no
form for NaN and the infinities.

## Main definitions

* `Decimal.positional`: digits placed around a point
* `Double.plainText`: the text shown to people
* `Double.exchangeText?`: the text written into documents, where one exists
-/

namespace SensorClient

namespace Decimal

/-- The digit characters. -/
def digitChars (d : Decimal) : List Char := Nat.toDigits 10 d.digits

/-- The exponent of the leading digit. -/
def leading (d : Decimal) : Int := d.exponent + (d.digitChars.length : Int) - 1

/-- Digits around a point; a whole number has `ending` after it. -/
def positional (d : Decimal) (ending : String) : String :=
  let digits := d.digitChars
  let places := (-d.exponent).toNat
  if 0 ≤ d.exponent then
    String.ofList (digits ++ List.replicate d.exponent.toNat '0') ++ ending
  else if places < digits.length then
    String.ofList (digits.take (digits.length - places)) ++ "."
      ++ String.ofList (digits.drop (digits.length - places))
  else
    "0." ++ String.ofList (List.replicate (places - digits.length) '0' ++ digits)

/-- One digit before the point, the others after it, and a signed exponent. -/
def scientific (d : Decimal) : String :=
  let digits := d.digitChars
  let fraction := if digits.length ≤ 1 then "" else "." ++ String.ofList (digits.drop 1)
  let power := if 0 ≤ d.leading then s!"+{d.leading}" else toString d.leading
  String.ofList (digits.take 1) ++ fraction ++ "e" ++ power

end Decimal

namespace Double

/-- The minus sign of a negative number. -/
def signText (d : Double) : String := if d.isNegative then "-" else ""

/-- The text without exponent; a zero keeps its sign. -/
def plainText (d : Double) : String :=
  if d.isNaN then "NaN"
  else if d.isInfinite then d.signText ++ "inf"
  else if d.isZero then d.signText ++ "0"
  else d.signText ++ (d.shortest .up).positional ""

/-- Whether documents write a number with this leading exponent without an exponent. -/
def isPositional (leading : Int) : Bool := -5 ≤ leading && leading < 16

/-- The text in documents; NaN and the infinities have none. -/
def exchangeText? (d : Double) : Option String :=
  if d.isNaN || d.isInfinite then none
  else if d.isZero then some (d.signText ++ "0.0")
  else
    let decimal := d.shortest .toEven
    let body := if isPositional decimal.leading then decimal.positional ".0" else decimal.scientific
    some (d.signText ++ body)

end Double

end SensorClient
