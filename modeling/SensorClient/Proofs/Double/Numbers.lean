import Mathlib.Algebra.Order.Field.Rat
import Mathlib.Algebra.Order.Field.Power
import Mathlib.Tactic.Ring
import Mathlib.Tactic.NormNum
import SensorClient.Double

/-!
# The numbers that doubles stand for

A double that is finite stands for a rational number, its significand scaled by a power of two and
taken with its sign. The two infinities differ by their sign, and a NaN stands for nothing. All other
numbers but zero have one double, so equality of doubles as numbers can be read off their bits.

## Main definitions

* `Double.Number`, `Double.number?`: what a double stands for
* `Double.Same`: two doubles stand for the same number

## Main results

* `Double.parts_of_magnitude`: a magnitude has one pattern
* `Double.same_iff`: which doubles stand for the same number
* `Double.numerEq_iff_same`: equality as numbers, read off the bits, is equality of the numbers
-/

namespace SensorClient.Double

variable {a b : Double}

/-- A number that a double can stand for. -/
inductive Number where
  | finite (value : ℚ)
  | infinite (negative : Bool)
deriving DecidableEq

/-- The value of a double that is finite. -/
def value (d : Double) : ℚ :=
  (if d.isNegative then -1 else 1) * d.significand * 2 ^ d.scale

/-- What a double stands for. -/
def number? (d : Double) : Option Number :=
  if d.isNaN then none
  else if d.isInfinite then some (.infinite d.isNegative)
  else some (.finite d.value)

/-- Two doubles stand for the same number. -/
def Same (a b : Double) : Prop := ∃ number, a.number? = some number ∧ b.number? = some number

/-! ## Magnitudes -/

/-- The sign, the exponent bits and the fraction bits make up the pattern. -/
theorem bits_eq (d : Double) :
    d.bits.toNat = (if d.isNegative then signWeight else 0) + d.exponentBits * exponentWeight +
      d.fractionBits := by
  have bounded := d.bits.toNat_lt
  unfold isNegative exponentBits fractionBits signWeight exponentWeight
  split <;> simp_all <;> omega

theorem ext_of_parts (sign : a.isNegative = b.isNegative) (exponent : a.exponentBits = b.exponentBits)
    (fraction : a.fractionBits = b.fractionBits) : a = b := by
  have bits : a.bits.toNat = b.bits.toNat := by
    rw [bits_eq, bits_eq, sign, exponent, fraction]
  obtain ⟨a⟩ := a
  obtain ⟨b⟩ := b
  exact congrArg mk (UInt64.toNat_inj.mp bits)

/-- The value without its sign, counted in units of the smallest positive double. -/
def magnitude (d : Double) : Nat := d.significand * 2 ^ (max d.exponentBits 1 - 1)

theorem fractionBits_lt (d : Double) : d.fractionBits < exponentWeight :=
  Nat.mod_lt _ (by decide)

theorem significand_lt (d : Double) : d.significand < 2 * exponentWeight := by
  have := d.fractionBits_lt
  unfold significand
  split <;> omega

theorem le_significand (normal : 1 ≤ a.exponentBits) : exponentWeight ≤ a.significand := by
  rw [significand, if_neg (Nat.one_le_iff_ne_zero.mp normal)]
  exact Nat.le_add_right _ _

/-- The smallest significand of a normal number is more than half the greatest of any, so the
exponents decide between magnitudes that differ in them. -/
theorem magnitude_lt (less : max a.exponentBits 1 < max b.exponentBits 1) :
    a.magnitude < b.magnitude := by
  have normal : 1 ≤ b.exponentBits := by omega
  have power : max a.exponentBits 1 - 1 + 1 ≤ max b.exponentBits 1 - 1 := by omega
  calc a.magnitude
      < 2 * exponentWeight * 2 ^ (max a.exponentBits 1 - 1) :=
        Nat.mul_lt_mul_of_pos_right a.significand_lt (Nat.two_pow_pos _)
    _ = exponentWeight * 2 ^ (max a.exponentBits 1 - 1 + 1) := by ring
    _ ≤ exponentWeight * 2 ^ (max b.exponentBits 1 - 1) :=
        Nat.mul_le_mul_left _ (Nat.pow_le_pow_right Nat.two_pos power)
    _ ≤ b.magnitude := Nat.mul_le_mul_right _ (le_significand normal)

/-- A magnitude has one pattern. -/
theorem parts_of_magnitude (same : a.magnitude = b.magnitude) :
    a.exponentBits = b.exponentBits ∧ a.fractionBits = b.fractionBits := by
  have exponent : max a.exponentBits 1 = max b.exponentBits 1 := by
    rcases Nat.lt_trichotomy (max a.exponentBits 1) (max b.exponentBits 1) with less | equal | more
    · exact absurd same (Nat.ne_of_lt (magnitude_lt less))
    · exact equal
    · exact absurd same (Nat.ne_of_gt (magnitude_lt more))
  have scaled : a.significand = b.significand := by
    unfold magnitude at same
    rw [exponent] at same
    exact Nat.eq_of_mul_eq_mul_right (Nat.two_pow_pos _) same
  -- A number without exponent bits has no leading bit, which tells it from the smallest normal one.
  have first := a.fractionBits_lt
  have second := b.fractionBits_lt
  unfold significand at scaled
  split at scaled <;> split at scaled <;> omega

theorem magnitude_eq_zero_iff : a.magnitude = 0 ↔ a.isZero = true := by
  have bits := a.bits_eq
  have fraction := a.fractionBits_lt
  have exponent : a.exponentBits < 2048 := Nat.mod_lt _ (by decide)
  have positive := Nat.two_pow_pos (max a.exponentBits 1 - 1)
  rw [magnitude, Nat.mul_eq_zero, or_iff_left (Nat.ne_of_gt positive), isZero, beq_iff_eq]
  unfold significand signWeight exponentWeight at *
  split at bits <;> split <;> omega

/-! ## Values -/

/-- The value of a finite double, counted in units of the smallest positive one. -/
def units (d : Double) : ℤ := if d.isNegative then -d.magnitude else d.magnitude

theorem value_eq (d : Double) : d.value = d.units * 2 ^ (-1074 : ℤ) := by
  have power : d.scale = ((max d.exponentBits 1 - 1 : ℕ) : ℤ) + -1074 := by
    unfold scale
    omega
  rw [value, power, zpow_add₀ two_ne_zero, zpow_natCast, units, magnitude]
  generalize (2 : ℚ) ^ (-1074 : ℤ) = least
  split <;> push_cast <;> ring

theorem value_inj : a.value = b.value ↔ a.units = b.units := by
  rw [value_eq, value_eq, mul_left_inj' (zpow_ne_zero _ two_ne_zero), Int.cast_inj]

/-- Two finite doubles have one value exactly if they are the same or both are zero. -/
theorem units_eq_iff : a.units = b.units ↔ a = b ∨ a.isZero = true ∧ b.isZero = true := by
  rw [← magnitude_eq_zero_iff, ← magnitude_eq_zero_iff]
  constructor
  · intro same
    have size : a.magnitude = b.magnitude := by
      unfold units at same
      split at same <;> split at same <;> omega
    by_cases zero : a.magnitude = 0
    · exact .inr ⟨zero, size ▸ zero⟩
    · -- A magnitude that is not zero carries its sign.
      have sign : a.isNegative = b.isNegative := by
        cases first : a.isNegative <;> cases second : b.isNegative <;>
          simp only [units, first, second, if_true, Bool.false_eq_true, if_false] at same ⊢ <;>
          omega
      obtain ⟨exponent, fraction⟩ := parts_of_magnitude size
      exact .inl (ext_of_parts sign exponent fraction)
  · rintro (rfl | ⟨first, second⟩)
    · rfl
    · simp [units, first, second]

/-! ## Equality -/

theorem number?_of_isZero (zero : a.isZero = true) : a.number? = some (.finite 0) := by
  have value : a.value = 0 := by
    rw [value_eq, units, magnitude_eq_zero_iff.mpr zero]
    simp
  have exponent : a.exponentBits = 0 := by
    unfold isZero signWeight at zero
    unfold exponentBits exponentWeight
    have bounded := a.bits.toNat_lt
    rw [beq_iff_eq] at zero
    omega
  simp [number?, isNaN, isInfinite, exponent, value]

theorem number?_eq_infinite_iff {negative : Bool} :
    a.number? = some (.infinite negative) ↔ a.isInfinite = true ∧ a.isNegative = negative := by
  unfold number? isNaN isInfinite
  cases a.exponentBits == 2047 <;> cases fraction : a.fractionBits == 0 <;>
    simp_all [bne]

theorem value_of_number? {value : ℚ} (stands : a.number? = some (.finite value)) :
    a.value = value := by
  unfold number? at stands
  split at stands
  · cases stands
  · split at stands <;> cases stands
    rfl

theorem number?_isSome_iff : a.number?.isSome = true ↔ a.isNaN = false := by
  unfold number?
  cases a.isNaN <;> cases a.isInfinite <;> simp

/-- Two infinities are the same double if they have the same sign. -/
theorem eq_of_isInfinite (first : a.isInfinite = true) (second : b.isInfinite = true)
    (sign : a.isNegative = b.isNegative) : a = b := by
  simp only [isInfinite, Bool.and_eq_true, beq_iff_eq] at first second
  exact ext_of_parts sign (first.1.trans second.1.symm) (first.2.trans second.2.symm)

/-- Doubles that stand for the same number are the same, unless they are the two zeros. -/
theorem Same.eq_or_zero (same : a.Same b) : a = b ∨ a.isZero = true ∧ b.isZero = true := by
  obtain ⟨number, first, second⟩ := same
  cases number with
  | finite value =>
    have values := (value_of_number? first).trans (value_of_number? second).symm
    exact units_eq_iff.mp (value_inj.mp values)
  | infinite negative =>
    rw [number?_eq_infinite_iff] at first second
    exact .inl (eq_of_isInfinite first.1 second.1 (first.2.trans second.2.symm))

theorem Same.isNaN_left (same : a.Same b) : a.isNaN = false := by
  obtain ⟨number, first, -⟩ := same
  exact number?_isSome_iff.mp (by simp [first])

theorem Same.symm (same : a.Same b) : b.Same a := by
  obtain ⟨number, first, second⟩ := same
  exact ⟨number, second, first⟩

/-- No NaN stands for the number of any double, and the two zeros stand for one number. Apart from
that every number has its own double. -/
theorem same_iff :
    a.Same b ↔
      a.isNaN = false ∧ b.isNaN = false ∧ (a = b ∨ a.isZero = true ∧ b.isZero = true) := by
  constructor
  · exact fun same => ⟨same.isNaN_left, same.symm.isNaN_left, same.eq_or_zero⟩
  · rintro ⟨number, -, rfl | ⟨first, second⟩⟩
    · obtain ⟨x, stands⟩ := Option.isSome_iff_exists.mp (number?_isSome_iff.mpr number)
      exact ⟨x, stands, stands⟩
    · exact ⟨.finite 0, number?_of_isZero first, number?_of_isZero second⟩

/-- Equality of doubles as it is read off their bits is equality of the numbers they stand for. -/
theorem numerEq_iff_same : a.numerEq b = true ↔ a.Same b := by
  have bits : a.bits = b.bits ↔ a = b := by
    cases a
    cases b
    simp
  simp [numerEq, same_iff, bits, and_assoc]

/-- The two zeros stand for the same number. -/
example : (⟨0⟩ : Double).Same ⟨0x8000000000000000⟩ :=
  numerEq_iff_same.mp (by decide)

end SensorClient.Double
