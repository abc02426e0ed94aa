import SensorClient.Control.Bus

/-!
# What is taken from an answer

Whoever asks for a value of some kind gets what the answer says, or a failure. Where an integer is
wanted the answer counts as the number it stands for, whatever its width, and it is taken if the
wanted kind has that number. Where nothing is wanted anything will do, and every other kind is taken
from its own shape only, as it is. An answer that is not taken is a failure that names what was asked
for, and a failure of the bus is passed on.

## Main definitions

* `NumbersWithin`: a type whose values have the numbers within some bounds
* `Kind.bounds?`: the least and the greatest number of an integer kind
* `Value.Gives`: what an answer gives to whoever asks for a kind
* `Reply.Narrows`: a reply is an answer narrowed to a kind

## Main results

* `Kind.narrow_eq_some_iff`: narrowing takes exactly what the answer gives
* `Value.exists_gives_iff`: an integer kind takes exactly the numbers within its bounds
* `Conversation.narrows_call`, `Conversation.narrows_property`: every reply is its answer narrowed
-/

namespace SensorClient

/-! ## Numbers within bounds -/

/-- The values of a type are numbered, and have exactly the numbers within some bounds. -/
structure NumbersWithin {α : Type} (number : α → Int) (ofInt : Int → α) (low high : Int) :
    Prop where
  bounded : ∀ w, low ≤ number w ∧ number w ≤ high
  number_ofInt : ∀ n, low ≤ n → n ≤ high → number (ofInt n) = n
  ofInt_number : ∀ w, ofInt (number w) = w

namespace NumbersWithin

variable {α : Type} {number : α → Int} {ofInt : Int → α} {low high : Int}

/-- What has a number within the bounds is the value with that number. -/
theorem ite_eq_some_iff (within : NumbersWithin number ofInt low high) {n : Int} {w : α} :
    (if low ≤ n ∧ n ≤ high then some (ofInt n) else none) = some w ↔ n = number w := by
  constructor
  · intro taken
    split at taken
    · next bounds =>
      cases taken
      exact (within.number_ofInt n bounds.1 bounds.2).symm
    · cases taken
  · rintro rfl
    rw [if_pos (within.bounded w), within.ofInt_number]

/-- What may be the number of a value is what lies within the bounds. -/
theorem exists_iff (within : NumbersWithin number ofInt low high) {found : Option Int} :
    (∃ w, found = some (number w)) ↔ ∃ n, found = some n ∧ low ≤ n ∧ n ≤ high := by
  constructor
  · rintro ⟨w, rfl⟩
    exact ⟨number w, rfl, within.bounded w⟩
  · rintro ⟨n, rfl, least, greatest⟩
    exact ⟨ofInt n, congrArg some (within.number_ofInt n least greatest).symm⟩

end NumbersWithin

theorem numbersWithin_int32 :
    NumbersWithin Int32.toInt Int32.ofInt (-2147483648) 2147483647 where
  bounded w := ⟨w.minValue_le_toInt, w.toInt_le⟩
  number_ofInt _ least greatest := Int32.toInt_ofInt_of_le least (Int.lt_add_one_of_le greatest)
  ofInt_number w := w.ofInt_toInt

theorem numbersWithin_uint32 :
    NumbersWithin (fun w : UInt32 => (w.toNat : Int)) (fun n => UInt32.ofNat n.toNat) 0 4294967295
    where
  bounded w := by
    have small : (w.toNat : Int) < 4294967295 + 1 := Int.ofNat_lt.mpr w.toNat_lt
    exact ⟨Int.natCast_nonneg _, Int.lt_add_one_iff.mp small⟩
  number_ofInt n nonneg greatest := by
    have small : n.toNat < 4294967296 := by omega
    rw [UInt32.toNat_ofNat_of_lt' small, Int.toNat_of_nonneg nonneg]
  ofInt_number w := by rw [Int.toNat_natCast, UInt32.ofNat_toNat]

theorem numbersWithin_int64 :
    NumbersWithin Int64.toInt Int64.ofInt (-9223372036854775808) 9223372036854775807 where
  bounded w := ⟨w.minValue_le_toInt, w.toInt_le⟩
  number_ofInt _ least greatest := Int64.toInt_ofInt_of_le least (Int.lt_add_one_of_le greatest)
  ofInt_number w := w.ofInt_toInt

theorem narrowInt32_eq_some_iff {n : Int} {w : Int32} : narrowInt32 n = some w ↔ n = w.toInt :=
  numbersWithin_int32.ite_eq_some_iff

theorem narrowUInt32_eq_some_iff {n : Int} {w : UInt32} :
    narrowUInt32 n = some w ↔ n = w.toNat := by
  have size : (UInt32.size : Int) = 4294967295 + 1 := rfl
  rw [narrowUInt32, size]
  simp only [Int.lt_add_one_iff]
  exact numbersWithin_uint32.ite_eq_some_iff

theorem narrowInt64_eq_some_iff {n : Int} {w : Int64} : narrowInt64 n = some w ↔ n = w.toInt :=
  numbersWithin_int64.ite_eq_some_iff

namespace Kind

/-- The least and the greatest number of an integer kind. -/
def bounds? : Kind → Option (Int × Int)
  | int => some (-2147483648, 2147483647)
  | uint => some (0, 4294967295)
  | long => some (-9223372036854775808, 9223372036854775807)
  | _ => none

/-- The number of a value of an integer kind. -/
def number? (k : Kind) (w : k.Carrier) : Option Int := (k.value w).toInt?

/-- What may be the number of a value of an integer kind is what lies within its bounds. -/
theorem exists_number_iff {k : Kind} {low high : Int} {found : Option Int}
    (bounded : k.bounds? = some (low, high)) :
    (∃ w, found = k.number? w) ↔ ∃ n, found = some n ∧ low ≤ n ∧ n ≤ high := by
  cases k with
  | int =>
    cases bounded
    exact numbersWithin_int32.exists_iff
  | uint =>
    cases bounded
    exact numbersWithin_uint32.exists_iff
  | long =>
    cases bounded
    exact numbersWithin_int64.exists_iff
  | _ => cases bounded

end Kind

/-! ## What an answer gives -/

/-- What an answer gives to whoever asks for a kind: anything gives nothing, an integer gives its
number, and any other value gives itself, as it is. -/
def Value.Gives (v : Value) : (k : Kind) → k.Carrier → Prop
  | .unit, _ => True
  | .int, w => v.toInt? = some w.toInt
  | .uint, w => v.toInt? = some (w.toNat : Int)
  | .long, w => v.toInt? = some w.toInt
  | .bool, w => v = .bool w
  | .str, w => v = .str w
  | .range, w => v = .range w
  | .ranges, w => v = .ranges w
  | .integerRanges, w => v = .integerRanges w

/-- An integer kind takes exactly the integers with a number within its bounds. -/
theorem Value.exists_gives_iff {k : Kind} {low high : Int} (bounded : k.bounds? = some (low, high))
    (v : Value) : (∃ w, v.Gives k w) ↔ ∃ n, v.toInt? = some n ∧ low ≤ n ∧ n ≤ high := by
  rw [← Kind.exists_number_iff bounded]
  cases k with
  | int | uint | long => rfl
  | _ => cases bounded

/-- Narrowing takes exactly what the answer gives. -/
theorem Kind.narrow_eq_some_iff {k : Kind} {v : Value} {w : k.Carrier} :
    k.narrow v = some w ↔ v.Gives k w := by
  cases k with
  | unit => exact iff_of_true rfl trivial
  | int =>
    refine Option.bind_eq_some_iff.trans ?_
    simp only [narrowInt32_eq_some_iff, exists_eq_right]
    rfl
  | uint =>
    refine Option.bind_eq_some_iff.trans ?_
    simp only [narrowUInt32_eq_some_iff, exists_eq_right]
    rfl
  | long =>
    refine Option.bind_eq_some_iff.trans ?_
    simp only [narrowInt64_eq_some_iff, exists_eq_right]
    rfl
  | _ => cases v <;> simp [narrow, Value.Gives]

/-- Narrowed to a kind, an answer is what it gives, or a failure that names what was asked for and
the kind. A failure of the bus stays as it is. -/
structure Reply.Narrows {k : Kind} (reply : Reply k.Carrier) (answer : Except BusError Value)
    (member : String) : Prop where
  taken : ∀ w, reply = .ok w ↔ ∃ v, answer = .ok v ∧ v.Gives k w
  refused : ∀ e, reply = .error e ↔
    answer = .error e ∨ ∃ v, answer = .ok v ∧ (∀ w, ¬ v.Gives k w) ∧ e = .replyType member k

theorem Kind.narrows (k : Kind) (answer : Except BusError Value) (member : String) :
    Reply.Narrows (answer.bind (k.replyTo member)) answer member := by
  cases answer with
  | error e => exact ⟨fun w => by simp [Except.bind], fun e' => by simp [Except.bind]⟩
  | ok v =>
    change Reply.Narrows (k.replyTo member v) (.ok v) member
    cases narrowed : k.narrow v with
    | none =>
      have refuses : ∀ w, ¬ v.Gives k w := fun w gives => by
        simp [narrow_eq_some_iff.mpr gives] at narrowed
      constructor
      · intro w
        simp [replyTo, narrowed, refuses]
      · intro e
        simp [replyTo, narrowed, refuses, eq_comm]
    | some w' =>
      constructor
      · intro w
        simp [replyTo, narrowed, ← narrow_eq_some_iff]
      · intro e
        have gives := narrow_eq_some_iff.mp narrowed
        have taken : ¬ ∀ w, ¬ v.Gives k w := fun refuses => refuses w' gives
        simp [replyTo, narrowed, taken]

namespace Conversation

variable (talk : Conversation) (party : Party) (k : Kind)

/-- The reply to a call is the answer of the bus, narrowed. -/
theorem narrows_call (method : String) (args : List Arg) :
    Reply.Narrows (talk.call party k method args).1
      (talk.bus.answer talk.log ⟨party, .call method args k⟩) method :=
  k.narrows _ method

/-- The reply to a property read is the answer of the bus, narrowed. -/
theorem narrows_property (name : String) :
    Reply.Narrows (talk.property party k name).1
      (talk.bus.answer talk.log ⟨party, .property name⟩) name :=
  k.narrows _ name

end Conversation

end SensorClient
