import SensorClient.Proofs.Control.Narrowing
import SensorClient.Proofs.Wire.ErrorReplies

/-!
# Properties in variants

A property comes in a variant, which may hold another one. Only the datum inside all of them counts.
It is first widened to a value, which keeps its number, and then narrowed to the kind that is asked
for, which keeps it too or refuses it; so the two together neither change a number nor take one shape
for another. The one thing that stands between a property and its reader is the wire, which carries
no more than so many variants around one another.

## Main definitions

* `Datum.innermost`: the datum inside all variants
* `Datum.number?`, `Datum.Gives`: its number, and what it gives to whoever asks for a kind
* `Datum.Travels`: whether the wire carries a datum

## Main results

* `Datum.exists_ofVariant?_iff`: widening and narrowing together
* `Conversation.property_eq_ok_iff`: what is read of a property over a wire
* `reads_keep_values`: what is read over a wire, and over any bus
* `nested_property_unread`: a property with more variants around it than the wire carries
-/

namespace SensorClient

/-! ## Inside the variants -/

namespace Datum

/-- The datum inside all the variants around it. -/
def innermost : Datum → Datum
  | variant inner => inner.innermost
  | d => d

/-- The number of an integer that properties may hold. -/
def number? : Datum → Option Int
  | byte n => some n.toNat
  | int16 n => some n.toInt
  | uint16 n => some n.toNat
  | int32 n => some n.toInt
  | uint32 n => some n.toNat
  | int64 n => some n.toInt
  | _ => none

/-- Whether a datum is of a type that properties may hold: a truth value, an integer that has a
number, or a text. -/
def isPlain : Datum → Bool
  | bool _ | byte _ | int16 _ | uint16 _ | int32 _ | uint32 _ | int64 _ | str _ => true
  | _ => false

/-- What a datum of a property gives to whoever asks for a kind: nothing, if properties may hold it
at all; its number; or itself, as it is. It never gives what has parts. -/
def Gives (d : Datum) : (k : Kind) → k.Carrier → Prop
  | .unit, _ => d.isPlain = true
  | .int, w => d.number? = some w.toInt
  | .uint, w => d.number? = some (w.toNat : Int)
  | .long, w => d.number? = some w.toInt
  | .bool, w => d = .bool w
  | .str, w => d = .str w
  | _, _ => False

/-- The wire carries a datum: there are not too many variants, lists and tuples around one another
in it, and its texts can be sent. -/
structure Travels (d : Datum) : Prop where
  nested : d.nesting ≤ maxNesting
  sendable : d.isSendable = true

variable {k : Kind} {d : Datum}

/-- An integer kind takes exactly the integers with a number within its bounds. -/
theorem exists_gives_iff {low high : Int} (bounded : k.bounds? = some (low, high)) (d : Datum) :
    (∃ w, d.Gives k w) ↔ ∃ n, d.number? = some n ∧ low ≤ n ∧ n ≤ high := by
  rw [← Kind.exists_number_iff bounded]
  cases k with
  | int | uint | long => rfl
  | _ => cases bounded

/-! ### Widening -/

theorem isPlain_innermost (d : Datum) : d.innermost.isPlain = d.ofVariant?.isSome := by
  induction d with
  | variant inner ih => exact ih
  | _ => rfl

/-- Widening keeps the number of an integer. -/
theorem number?_innermost (d : Datum) : d.innermost.number? = d.ofVariant?.bind Value.toInt? := by
  induction d with
  | variant inner ih => exact ih
  | byte n =>
    have fits : n.toNat < UInt32.size := Nat.lt_trans n.toNat_lt (by decide)
    have same : (UInt32.ofNat n.toNat).toNat = n.toNat := UInt32.toNat_ofNat_of_lt' fits
    exact congrArg (fun m : Nat => some (m : Int)) same.symm
  | uint16 n =>
    have fits : n.toNat < UInt32.size := Nat.lt_trans n.toNat_lt (by decide)
    have same : (UInt32.ofNat n.toNat).toNat = n.toNat := UInt32.toNat_ofNat_of_lt' fits
    exact congrArg (fun m : Nat => some (m : Int)) same.symm
  | int16 n =>
    have low : -2 ^ 31 ≤ n.toInt := Int.le_trans (by decide) n.le_toInt
    have high : n.toInt < 2 ^ 31 := Int.lt_trans n.toInt_lt (by decide)
    exact congrArg some (Int32.toInt_ofInt_of_le low high).symm
  | _ => rfl

theorem ofVariant?_eq_bool_iff {b : Bool} :
    d.ofVariant? = some (.bool b) ↔ d.innermost = .bool b := by
  induction d with
  | variant inner ih => exact ih
  | _ => simp [ofVariant?, innermost]

theorem ofVariant?_eq_str_iff {text : String} :
    d.ofVariant? = some (.str text) ↔ d.innermost = .str text := by
  induction d with
  | variant inner ih => exact ih
  | _ => simp [ofVariant?, innermost]

/-- A property is never widened to something with parts. -/
theorem plain_of_ofVariant? {v : Value} (widened : d.ofVariant? = some v) :
    v.kind ≠ .range ∧ v.kind ≠ .ranges ∧ v.kind ≠ .integerRanges := by
  induction d with
  | variant inner ih => exact ih widened
  | bool | byte | int16 | uint16 | int32 | uint32 | int64 | str =>
    cases widened
    exact ⟨nofun, nofun, nofun⟩
  | _ => cases widened

/-- Widened to a value and asked for a kind, a property gives what the datum inside all its variants
gives. -/
theorem exists_ofVariant?_iff {w : k.Carrier} :
    (∃ v, d.ofVariant? = some v ∧ v.Gives k w) ↔ d.innermost.Gives k w := by
  cases k with
  | unit =>
    change (∃ v, d.ofVariant? = some v ∧ True) ↔ d.innermost.isPlain = true
    rw [d.isPlain_innermost, Option.isSome_iff_exists]
    simp only [and_true]
  | int | uint | long =>
    -- The number that is asked for is that of the widened value.
    change _ ↔ d.innermost.number? = some _
    rw [d.number?_innermost, Option.bind_eq_some_iff]
    rfl
  | bool => exact exists_eq_right.trans ofVariant?_eq_bool_iff
  | str => exact exists_eq_right.trans ofVariant?_eq_str_iff
  | range =>
    refine iff_of_false ?_ id
    rintro ⟨v, widened, rfl⟩
    exact (plain_of_ofVariant? widened).1 rfl
  | ranges =>
    refine iff_of_false ?_ id
    rintro ⟨v, widened, rfl⟩
    exact (plain_of_ofVariant? widened).2.1 rfl
  | integerRanges =>
    refine iff_of_false ?_ id
    rintro ⟨v, widened, rfl⟩
    exact (plain_of_ofVariant? widened).2.2 rfl

/-- A tuple of one number is not taken for the number. -/
example : (other ⟨"(i)", 1, true, by decide⟩).ofVariant? = none := rfl

end Datum

/-! ## Reading a property -/

/-- A response to a property read says a value exactly if it holds a datum that the wire carries and
that can be widened. -/
theorem Response.answer_property_eq_ok_iff {response : Response} {name : String} {v : Value} :
    response.answer (.property name) = .ok v ↔
      ∃ d, response = .body (some d) ∧ d.Travels ∧ d.ofVariant? = some v := by
  cases response with
  | error name message => exact iff_of_false nofun nofun
  | body found =>
    cases found with
    | none => exact iff_of_false nofun nofun
    | some d =>
      unfold answer
      dsimp only
      split
      · next barred =>
        refine iff_of_false nofun ?_
        rintro ⟨_, ⟨⟩, travels, -⟩
        simp [Nat.not_lt.mpr travels.nested, travels.sendable] at barred
      · next passes =>
        have travels : d.Travels := by
          simp only [Bool.or_eq_true, decide_eq_true_eq, not_or, Nat.not_lt] at passes
          exact ⟨passes.1, by simpa using passes.2⟩
        constructor
        · intro answered
          refine ⟨d, rfl, travels, ?_⟩
          cases widened : d.ofVariant? with
          | none => simp [widened] at answered
          | some v' => simpa [widened] using answered
        · rintro ⟨_, ⟨⟩, -, widened⟩
          rw [widened]

section

variable {peer : Peer} {stations : Party → Except String Station} {talk : Conversation}
  {party : Party} {k : Kind} {name : String} {w : k.Carrier}

/-- What is read of a property over a wire is what the datum inside all its variants gives. -/
theorem Conversation.property_eq_ok_iff (wired : talk.bus = .onWire peer stations) :
    (talk.property party k name).1 = .ok w ↔
      ∃ d, talk.Meets peer stations ⟨party, .property name⟩ (.body (some d)) ∧ d.Travels ∧
        d.innermost.Gives k w := by
  rw [(talk.narrows_property party k name).taken]
  constructor
  · rintro ⟨v, answered, gives⟩
    rw [wired] at answered
    obtain ⟨message, written, whole, response⟩ := answer_onWire_eq_ok_iff.mp answered
    obtain ⟨d, said, travels, widened⟩ := Response.answer_property_eq_ok_iff.mp response
    exact ⟨d, ⟨wired, whole, message, written, said⟩, travels,
      Datum.exists_ofVariant?_iff.mp ⟨v, widened, gives⟩⟩
  · rintro ⟨d, meets, travels, gives⟩
    obtain ⟨v, widened, given⟩ := Datum.exists_ofVariant?_iff.mpr gives
    refine ⟨v, ?_, given⟩
    rw [meets.answer]
    exact Response.answer_property_eq_ok_iff.mpr ⟨d, rfl, travels, widened⟩

end

/-- Nothing that is read changes a number or takes one shape for another. A property that is read
over a wire is what the datum inside all its variants gives, as long as the wire carries it; an
integer kind takes exactly the integers with a number within its bounds, and has that number. Over
any bus a reply is the answer narrowed: what the answer gives, or a failure that names what was asked
for and the kind, or the failure of the bus as it is. -/
theorem reads_keep_values (k : Kind) (party : Party) :
    (∀ (peer : Peer) (stations : Party → Except String Station) (talk : Conversation),
      talk.bus = .onWire peer stations → ∀ (name : String) (w : k.Carrier),
        (talk.property party k name).1 = .ok w ↔
          ∃ d, talk.Meets peer stations ⟨party, .property name⟩ (.body (some d)) ∧ d.Travels ∧
            d.innermost.Gives k w) ∧
      (∀ low high, k.bounds? = some (low, high) →
        (∀ d : Datum, (∃ w, d.Gives k w) ↔ ∃ n, d.number? = some n ∧ low ≤ n ∧ n ≤ high) ∧
        ∀ v : Value, (∃ w, v.Gives k w) ↔ ∃ n, v.toInt? = some n ∧ low ≤ n ∧ n ≤ high) ∧
      ∀ talk : Conversation,
        (∀ method args, Reply.Narrows (talk.call party k method args).1
          (talk.bus.answer talk.log ⟨party, .call method args k⟩) method) ∧
        ∀ name, Reply.Narrows (talk.property party k name).1
          (talk.bus.answer talk.log ⟨party, .property name⟩) name := by
  refine ⟨?_, ?_, ?_⟩
  · intro peer stations talk wired name w
    exact Conversation.property_eq_ok_iff wired
  · intro low high bounded
    exact ⟨Datum.exists_gives_iff bounded, Value.exists_gives_iff bounded⟩
  · intro talk
    exact ⟨talk.narrows_call party k, talk.narrows_property party k⟩

/-! ## Properties with variants around them -/

/-- A datum with so many variants around it. -/
def Datum.wrapped : Nat → Datum → Datum
  | 0, d => d
  | n + 1, d => .variant (d.wrapped n)

/-- A peer whose properties have variants around them: two around a 16-bit number, and as many as
the wire carries, and one more, around a truth value. -/
def Peer.wrapping : Peer :=
  .scripted ⟨[], [("interval", [.body (some (.wrapped 2 (.uint16 65535)))]),
    ("awake", [.body (some (.wrapped 62 (.bool true)))]),
    ("asleep", [.body (some (.wrapped 63 (.bool true)))])]⟩

/-- A talk with that peer. -/
def Conversation.wrapped : Conversation := .begin (.onWire .wrapping lightStations)

theorem reads_keep_values_widened :
    (Conversation.wrapped.property .channel .int "interval").1 = .ok 65535 ∧
      (∃ w, (Datum.uint32 2147483647).Gives .int w) ∧
      ¬ (∃ w, (Datum.uint32 2147483648).Gives .int w) := by
  obtain ⟨wire, bounds, -⟩ := reads_keep_values .int .channel
  obtain ⟨within, -⟩ := bounds _ _ rfl
  refine ⟨?_, (within _).mpr ⟨2147483647, rfl, by decide, by decide⟩, fun taken => ?_⟩
  · apply (wire .wrapping lightStations .wrapped rfl "interval" 65535).mpr
    exact ⟨_, ⟨rfl, rfl, _, rfl, rfl⟩, ⟨by decide, rfl⟩, rfl⟩
  · obtain ⟨n, ⟨⟩, -, small⟩ := (within _).mp taken
    exact absurd small (by decide)

/-- A truth value with one variant more around it than the wire carries is not read as one, though
that is what is inside. With one less it is. -/
theorem nested_property_unread :
    (Datum.wrapped 63 (.bool true)).innermost.Gives .bool true ∧
      Conversation.wrapped.Meets .wrapping lightStations ⟨.channel, .property "asleep"⟩
        (.body (some (.wrapped 63 (.bool true)))) ∧
      (Conversation.wrapped.property .channel .bool "asleep").1 ≠ .ok true ∧
      (Conversation.wrapped.property .channel .bool "asleep").1 =
        .error (.transport (.wire "property asleep cannot be read")) ∧
      (Conversation.wrapped.property .channel .bool "awake").1 = .ok true := by
  refine ⟨rfl, ⟨rfl, rfl, _, rfl, rfl⟩, ?_, ?_, ?_⟩
  · decide +kernel
  · decide +kernel
  · decide +kernel

end SensorClient
