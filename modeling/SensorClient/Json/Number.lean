import SensorClient.Double.Nearest
import SensorClient.Json.Reader

/-!
# What a number literal stands for

A double is read fast rather than exactly: as many digits as fit a 64-bit word are taken, and the
word is then scaled by a power of ten, with one rounding for the word and one for each scaling.
A whole number is read exactly, and only where the literal has no sign, point or exponent.

## Main definitions

* `Json.literalDouble?`: the double that a literal stands for
* `Json.literalWord?`: the whole number below a limit that a literal stands for
-/

namespace SensorClient.Json

/-- The value of decimal digits. -/
def digitsValue (digits : List Char) : Nat :=
  digits.foldl (fun value c => 10 * value + (c.toNat - 48)) 0

/-- Appends digits to a word while they fit 64 bits; gives the digits that are left. -/
def gather : Nat → List Char → Nat × List Char
  | word, [] => (word, [])
  | word, c :: rest =>
    let next := 10 * word + (c.toNat - 48)
    if next < UInt64.size then gather next rest else (word, c :: rest)

/-- The largest exponent with a power of ten below infinity. -/
def topPower : Nat := 308

/-- The power of ten nearest to `10 ^ n`. -/
def tenTo (n : Nat) : Double := Double.ofRatio false (Nat.pow 10 n) 1

/-- Scales a magnitude by a power of ten, in steps that each stay within the range of doubles; a
result beyond that range is refused. -/
def scaled (d : Double) (exponent : Int) : Option Double :=
  if exponent.natAbs ≤ topPower then
    if 0 ≤ exponent then
      let product := d.times (tenTo exponent.toNat)
      if product.isInfinite then none else some product
    else some (d.dividedBy (tenTo (-exponent).toNat))
  else if d.isZero then some d
  else if 0 ≤ exponent then none
  else scaled (d.dividedBy (tenTo topPower)) (exponent + topPower)
termination_by (-exponent).toNat
decreasing_by simp [topPower] at *; omega

/-- The limit that exponents are kept within. -/
def exponentLimit : Int := 2147483648

/-- The exponent after adding or subtracting, kept within its limit. -/
def shiftExponent (start change : Int) : Int :=
  max (-exponentLimit) (min (exponentLimit - 1) (start + change))

/-- The double that a literal stands for; one beyond the range of doubles stands for none. -/
def literalDouble? (literal : List Char) : Option Double := do
  let (negative, body) := match literal with
    | '-' :: rest => (true, rest)
    | _ => (false, literal)
  let whole := body.takeWhile Char.isDigit
  let body := body.dropWhile Char.isDigit
  let fraction := match body with
    | '.' :: rest => rest.takeWhile Char.isDigit
    | _ => []
  let (word, spare) := gather 0 whole
  let (word, unread) := gather word fraction
  let start : Int := (spare.length : Int) - ((fraction.length - unread.length : Nat) : Int)
  let written := (body.dropWhile fun c => c != 'e' && c != 'E').drop 1
  let (sign, digits) := readSign written
  let size := digitsValue digits
  let significand := Double.ofRatio false word 1
  if exponentLimit ≤ size then
    if word ≠ 0 ∧ sign ≠ ['-'] then none else some (Double.withSign negative Double.zero)
  else
    let exponent := shiftExponent start (if sign = ['-'] then -(size : Int) else size)
    let magnitude ← scaled significand exponent
    return Double.withSign negative magnitude

/-- The number below the limit that a literal of digits alone stands for. -/
def literalWord? (limit : Nat) (literal : List Char) : Option Nat :=
  if literal ≠ [] ∧ literal.all Char.isDigit ∧ digitsValue literal < limit then
    some (digitsValue literal)
  else none

end SensorClient.Json
