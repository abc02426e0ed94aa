/-!
# Binary floating-point numbers

A double is its 64-bit pattern: a sign, eleven bits of exponent and fifty-two of fraction. The
client never computes with such numbers. It compares them, writes them and reads them, so the
pattern and the number it stands for are all that is needed.

## Main definitions

* `Double`: the bit pattern
* `Double.significand`, `Double.scale`: a finite double is `± significand * 2 ^ scale`
* `Double.numerEq`: equality of the numbers, under which a NaN equals nothing and the zeros agree
-/

namespace SensorClient

/-- A double-precision number, held as its bit pattern. -/
structure Double where
  bits : UInt64
deriving DecidableEq, Repr

namespace Double

/-- Positive zero, the pattern of zero bits. -/
def zero : Double := ⟨0⟩

instance : Inhabited Double := ⟨zero⟩

/-- The weight of the sign bit, the highest of sixty-four. -/
def signWeight : Nat := 9223372036854775808

/-- The weight of the lowest exponent bit: there are fifty-two fraction bits below it. -/
def exponentWeight : Nat := 4503599627370496

/-- Whether the sign bit is set. -/
def isNegative (d : Double) : Bool := signWeight ≤ d.bits.toNat

/-- The eleven exponent bits. -/
def exponentBits (d : Double) : Nat := d.bits.toNat / exponentWeight % 2048

/-- The fifty-two fraction bits. -/
def fractionBits (d : Double) : Nat := d.bits.toNat % exponentWeight

/-- Not a number: all exponent bits set, and some fraction bit. -/
def isNaN (d : Double) : Bool := d.exponentBits == 2047 && d.fractionBits != 0

/-- An infinity: all exponent bits set, and no fraction bit. -/
def isInfinite (d : Double) : Bool := d.exponentBits == 2047 && d.fractionBits == 0

/-- One of the two zeros. -/
def isZero (d : Double) : Bool := d.bits.toNat % signWeight == 0

/-- The whole number that is scaled: normal numbers have an implied leading bit. -/
def significand (d : Double) : Nat :=
  if d.exponentBits = 0 then d.fractionBits else exponentWeight + d.fractionBits

/-- The power of two that the significand is multiplied by. -/
def scale (d : Double) : Int := (max d.exponentBits 1 : Nat) - 1075

/-- Equality of numbers: a NaN equals nothing, not even itself, and the two zeros are equal. -/
def numerEq (a b : Double) : Bool :=
  !a.isNaN && !b.isNaN && (a.bits == b.bits || (a.isZero && b.isZero))

end Double

end SensorClient
