import SensorClient.Double.Nearest

/-!
# The shortest decimal of a double

Every real number between the two midpoints around a double reads back as that double; a midpoint
itself does so when the significand is even. The shortest decimal of a double is the one with the
fewest digits in that interval, and among those the one nearest to the double. Where two are
equally near, a text has its own way of choosing.

## Main definitions

* `Decimal`: a whole number times a power of ten
* `Tie`: which of two equally near decimals is chosen
* `Double.shortest`: the shortest decimal that reads back as the double

The search goes through the digit counts from one upwards. On each decimal grid only the two
points around the double are looked at: if any point of the grid lies in the interval, one of
these does.
-/

namespace SensorClient

/-- `digits * 10 ^ exponent`. -/
structure Decimal where
  digits : Nat
  exponent : Int
deriving DecidableEq, Repr

/-- Moves trailing zeros of the digits into the exponent; `fuel` bounds how many. -/
def Decimal.trim : Nat → Decimal → Decimal
  | 0, d => d
  | fuel + 1, d =>
    if d.digits ≠ 0 ∧ d.digits % 10 = 0 then trim fuel ⟨d.digits / 10, d.exponent + 1⟩ else d

/-- Which of two equally near decimals is chosen. -/
inductive Tie where
  | up
  | toEven
deriving DecidableEq, Repr

/-- Whether the lower of two equally near counts is chosen. -/
def Tie.prefersBelow (below : Nat) : Tie → Bool
  | up => false
  | toEven => below % 2 == 0

namespace Double

/-- `num / den / 10 ^ power` as a ratio of whole numbers. -/
def onGrid (num den : Nat) (power : Int) : Nat × Nat :=
  if 0 ≤ power then (num, den * Nat.pow 10 power.toNat)
  else (num * Nat.pow 10 (-power).toNat, den)

/-- The exponent of the largest power of ten that is at most `num / den`, for a positive ratio:
counted from the digits of the whole part, or else from the zeros after the point. -/
def decimalExponent (num den : Nat) : Int :=
  if den ≤ num then ((Nat.toDigits 10 (num / den)).length : Int) - 1
  else
    match (List.range 400).find? fun zeros => den ≤ num * Nat.pow 10 (zeros + 1) with
    | some zeros => -(zeros + 1 : Nat)
    | none => 0

/-- The interval of reals that read back as a double, in quarters of its last place: the ends and
the double itself as whole numbers over `den`, and whether the ends belong to it. -/
structure Interval where
  low : Nat
  mid : Nat
  high : Nat
  den : Nat
  closed : Bool

/-- The interval of a finite double that is not zero. Below a power of two the doubles are twice
as dense, so there the lower midpoint is half as far away. -/
def interval (d : Double) : Interval :=
  let m := 4 * d.significand
  let below := if d.fractionBits = 0 ∧ 1 < d.exponentBits then 1 else 2
  let (factor, den) := shifted 1 1 (d.scale - 2)
  ⟨(m - below) * factor, m * factor, (m + 2) * factor, den, d.significand % 2 == 0⟩

/-- Whether `count * 10 ^ power` lies in the interval. -/
def Interval.holds (i : Interval) (count : Nat) (power : Int) : Bool :=
  let (low, lowDen) := onGrid i.low i.den power
  let (high, highDen) := onGrid i.high i.den power
  if i.closed then low ≤ count * lowDen && count * highDen ≤ high
  else low < count * lowDen && count * highDen < high

/-- The point of the grid `10 ^ power` that lies in the interval and is nearest to the double. -/
def Interval.nearestOn? (i : Interval) (tie : Tie) (power : Int) : Option Nat :=
  let (mid, den) := onGrid i.mid i.den power
  let below := mid / den
  let above := below + 1
  match i.holds below power, i.holds above power with
  | false, false => none
  | true, false => some below
  | false, true => some above
  | true, true =>
    let twice := 2 * (mid % den)
    if twice < den then some below
    else if den < twice then some above
    else if tie.prefersBelow below then some below
    else some above

/-- The shortest decimal of a finite double that is not zero, without its sign. -/
def shortest (d : Double) (tie : Tie) : Decimal :=
  let i := d.interval
  let top := decimalExponent i.mid i.den
  let found := (List.range 17).findSome? fun (more : Nat) =>
    (i.nearestOn? tie (top - more)).map fun count => Decimal.mk count (top - more)
  (found.getD ⟨0, 0⟩).trim 20

end Double

end SensorClient
