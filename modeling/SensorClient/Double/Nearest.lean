import SensorClient.Double

/-!
# The double nearest to a ratio

A ratio of whole numbers is rounded to the nearest double, a tie going to the even significand.
Ratios beyond the largest double become an infinity. Products and quotients of doubles are formed
exactly and rounded once.

## Main definitions

* `Double.roundDiv`: the whole number nearest to a quotient, ties to even
* `Double.ofRatio`: the double nearest to a ratio
* `Double.times`, `Double.dividedBy`: the rounded product and quotient of magnitudes
-/

namespace SensorClient.Double

/-- The whole number nearest to `num / den`; of two that are equally near, the even one. -/
def roundDiv (num den : Nat) : Nat :=
  let below := num / den
  let twice := 2 * (num % den)
  if twice < den then below
  else if den < twice then below + 1
  else if below % 2 = 0 then below else below + 1

/-- `num / den * 2 ^ power` as a ratio of whole numbers. -/
def shifted (num den : Nat) (power : Int) : Nat × Nat :=
  if 0 ≤ power then (num * Nat.pow 2 power.toNat, den) else (num, den * Nat.pow 2 (-power).toNat)

/-- The exponent of the largest power of two that is at most `num / den`, for a positive ratio. -/
def binaryExponent (num den : Nat) : Int :=
  let guess : Int := (Nat.log2 num : Int) - Nat.log2 den
  let (n, d) := shifted num den (-guess)
  if n < d then guess - 1 else guess

/-- The pattern of positive infinity. -/
def infinityBits : Nat := 2047 * exponentWeight

/-- The pattern of the magnitude nearest to `num / den`. -/
def magnitudeBits (num den : Nat) : Nat :=
  if num = 0 then 0
  else
    let scale := max (binaryExponent num den - 52) (-1074)
    let (n, d) := shifted num den (-scale)
    let significand := roundDiv n d
    let bits :=
      if significand < exponentWeight then significand
      else (scale + 1075).toNat * exponentWeight + (significand - exponentWeight)
    min bits infinityBits

/-- The double nearest to `num / den`, with the given sign. -/
def ofRatio (negative : Bool) (num den : Nat) : Double :=
  ⟨UInt64.ofNat ((if negative then signWeight else 0) + magnitudeBits num den)⟩

/-- The magnitude of a finite double as a ratio of whole numbers. -/
def ratio (d : Double) : Nat × Nat := shifted d.significand 1 d.scale

/-- The rounded product of two magnitudes; infinity absorbs. -/
def times (a b : Double) : Double :=
  if a.isInfinite || b.isInfinite then ⟨UInt64.ofNat infinityBits⟩
  else ofRatio false (a.ratio.1 * b.ratio.1) (a.ratio.2 * b.ratio.2)

/-- The rounded quotient of two magnitudes, for a divisor that is not zero. -/
def dividedBy (a b : Double) : Double :=
  if a.isInfinite then ⟨UInt64.ofNat infinityBits⟩
  else ofRatio false (a.ratio.1 * b.ratio.2) (a.ratio.2 * b.ratio.1)

/-- The same magnitude with the sign bit set or cleared. -/
def withSign (negative : Bool) (d : Double) : Double :=
  ⟨UInt64.ofNat ((if negative then signWeight else 0) + d.bits.toNat % signWeight)⟩

end SensorClient.Double
