import SensorClient.Proofs.Double.Numbers
import SensorClient.Proofs.Session.Requests

/-!
# Selecting a data range

A data range is selected by its place in the list of those on offer. The daemon is told the place,
then asked for the list, and then, if the list has the place, for the range in use. The selection has
come into effect exactly if these two answers agree: what the daemon answers to being told does not
count.

## Main definitions

* `DataRange.Same`: the fields of two ranges stand for the same numbers
* `Session.Offered`: the list on offer has a range at a place
* `Session.Selects`: what a selection does

## Main results

* `DataRange.numerEq_iff_same`: equality of ranges as numbers
* `Session.rangeAt_eq_some_iff`: a range is found if and only if it is on offer at the place
* `Session.setDataRangeIndex_fst_iff`: when a selection is confirmed
* `Session.selects`: what every selection does
-/

namespace SensorClient

/-! ## Ranges -/

/-- The fields of two ranges stand for the same numbers. -/
structure DataRange.Same (a b : DataRange) : Prop where
  min : a.min.Same b.min
  max : a.max.Same b.max
  resolution : a.resolution.Same b.resolution

theorem DataRange.numerEq_iff_same {a b : DataRange} : a.numerEq b = true ↔ a.Same b := by
  rw [numerEq, Bool.and_eq_true, Bool.and_eq_true, Double.numerEq_iff_same, Double.numerEq_iff_same,
    Double.numerEq_iff_same, and_assoc]
  exact ⟨fun ⟨min, max, resolution⟩ => ⟨min, max, resolution⟩,
    fun same => ⟨same.min, same.max, same.resolution⟩⟩

/-- Only an answer of its own shape has a range as its value. -/
theorem any_value?_range_iff {member : String} {answer : Except BusError Value}
    {p : DataRange → Bool} :
    (Reply.value? (answer.bind (Kind.range.replyTo member))).any p = true ↔
      ∃ range, answer = .ok (.range range) ∧ p range = true := by
  rcases answer with e | v
  · simp [Except.bind, Reply.value?, Except.toOption]
  · cases v <;> simp [Except.bind, Kind.replyTo, Kind.narrow, Reply.value?, Except.toOption]

/-! ## The requests of a selection -/

namespace Request

/-- The call that tells the daemon which place to select. -/
def selectRange (id index : Int32) : Request := call .unit "setDataRangeIndex" [.int id, .int index]

/-- The call that asks for the ranges on offer. -/
def offeredRanges : Request := call .ranges "getAvailableDataRanges" []

/-- The call that asks for the range in use. -/
def currentRange : Request := call .range "getCurrentDataRange" []

theorem offeredRanges_ne (id index : Int32) : offeredRanges ≠ selectRange id index := by
  simp [offeredRanges, selectRange, call]

theorem currentRange_ne (id index : Int32) : currentRange ≠ selectRange id index := by
  simp [currentRange, selectRange, call]

end Request

namespace Session

variable {σ : Type} {s : Session σ} {index : Int32}

/-- What the daemon has on offer after it was told a place is a list, and has this range there. -/
def Offered (s : Session σ) (index : Int32) (range : DataRange) : Prop :=
  ∃ ranges, s.talk.bus.answer (s.talk.log ++ [.selectRange s.id index]) .offeredRanges =
      .ok (.ranges ranges) ∧
    0 ≤ index.toInt ∧ ranges[index.toInt.toNat]? = some range

/-- An answer that is no list of ranges has no range at any place. -/
theorem rangeAt_valueOrDefault_iff {member : String} {answer : Except BusError Value}
    {range : DataRange} :
    rangeAt (Reply.valueOrDefault (answer.bind (Kind.ranges.replyTo member))) index = some range ↔
      ∃ ranges, answer = .ok (.ranges ranges) ∧ 0 ≤ index.toInt ∧
        ranges[index.toInt.toNat]? = some range := by
  rcases answer with e | v
  · simp [Except.bind, Reply.valueOrDefault, Except.toOption, rangeAt, default]
  · cases v <;>
      simp [Except.bind, Kind.replyTo, Kind.narrow, Reply.valueOrDefault, Except.toOption, rangeAt,
        default]

theorem rangeAt_eq_some_iff {range : DataRange} :
    rangeAt (s.offeredRanges index) index = some range ↔ s.Offered index range :=
  rangeAt_valueOrDefault_iff

/-- A selection says whether the range that is in use afterwards is the one on offer at the place. -/
theorem setDataRangeIndex_fst_iff :
    (s.setDataRangeIndex index).1 = true ↔
      ∃ wanted current, s.Offered index wanted ∧
        s.talk.bus.answer (s.talk.log ++ [.selectRange s.id index, .offeredRanges]) .currentRange =
          .ok (.range current) ∧
        current.Same wanted := by
  cases wanted : rangeAt (s.offeredRanges index) index with
  | none =>
    -- No range is on offer at the place, and the selection does not ask any further.
    have refused : (s.setDataRangeIndex index).1 = false := by
      unfold rangeAt offeredRanges at wanted
      simp only [setDataRangeIndex, wanted]
    rw [refused]
    constructor
    · intro agreed
      cases agreed
    · rintro ⟨range, -, offered, -⟩
      rw [← rangeAt_eq_some_iff, wanted] at offered
      cases offered
  | some wanted' =>
    have asked : (s.setDataRangeIndex index).1 =
        (Reply.value? ((s.talk.bus.answer (s.talk.log ++ [.selectRange s.id index, .offeredRanges])
          .currentRange).bind (Kind.range.replyTo "getCurrentDataRange"))).any
            fun range => range.numerEq wanted' := by
      have past : s.talk.log ++ [.selectRange s.id index, .offeredRanges] =
          s.talk.log ++ [.selectRange s.id index] ++ [.offeredRanges] := by simp
      unfold rangeAt offeredRanges at wanted
      simp only [setDataRangeIndex, wanted, past]
      rfl
    rw [asked, any_value?_range_iff]
    constructor
    · rintro ⟨current, answered, agrees⟩
      exact ⟨wanted', current, rangeAt_eq_some_iff.mp wanted, answered,
        DataRange.numerEq_iff_same.mp agrees⟩
    · rintro ⟨range, current, offered, answered, same⟩
      rw [← rangeAt_eq_some_iff, wanted] at offered
      cases offered
      exact ⟨current, answered, DataRange.numerEq_iff_same.mpr same⟩

/-- What a selection does. -/
structure Selects (s : Session σ) (index : Int32) : Prop where
  /-- It says yes if and only if there is a range on offer at the place, and the one in use
  afterwards is the same as numbers. -/
  confirms : (s.setDataRangeIndex index).1 = true ↔
    ∃ wanted current, s.Offered index wanted ∧
      s.talk.bus.answer (s.talk.log ++ [.selectRange s.id index, .offeredRanges]) .currentRange =
        .ok (.range current) ∧
      current.Same wanted
  /-- If there is a range on offer at the place, the range in use is asked for last. -/
  asks : (∃ wanted, s.Offered index wanted) →
    (s.setDataRangeIndex index).2.talk =
      s.talk.after [.selectRange s.id index, .offeredRanges, .currentRange]
  /-- If there is none it is not asked for. -/
  refrains : (¬ ∃ wanted, s.Offered index wanted) →
    (s.setDataRangeIndex index).2.talk = s.talk.after [.selectRange s.id index, .offeredRanges]
  /-- It makes no difference how the daemon answers to being told the place. -/
  unheeded : ∀ bus : Bus,
    (∀ past request, request ≠ .selectRange s.id index →
      bus.answer past request = s.talk.bus.answer past request) →
    ({ s with talk.bus := bus }.setDataRangeIndex index).1 = (s.setDataRangeIndex index).1
  /-- The local error is forgotten, and nothing else changes. -/
  session : (s.setDataRangeIndex index).2 =
    { s with error := .clear, talk := (s.setDataRangeIndex index).2.talk }

theorem isSome_rangeAt_iff :
    (rangeAt (s.offeredRanges index) index).isSome = true ↔ ∃ wanted, s.Offered index wanted := by
  simp only [Option.isSome_iff_exists, rangeAt_eq_some_iff]

/-- Whatever the session, whatever the place, and whatever the daemon answers: a selection says
whether the daemon confirms the range that it has on offer at the place, makes its calls in order,
and changes nothing but the local error. Ranges are confirmed as numbers: no NaN confirms anything,
and the two zeros confirm each other. -/
theorem selects (s : Session σ) (index : Int32) :
    s.Selects index ∧
      ∀ a b : Double, a.Same b ↔
        a.isNaN = false ∧ b.isNaN = false ∧ (a = b ∨ a.isZero = true ∧ b.isZero = true) := by
  have after := s.setDataRangeIndex_snd index
  refine ⟨⟨setDataRangeIndex_fst_iff, ?_, ?_, ?_, ?_⟩, fun a b => Double.same_iff⟩
  · intro offered
    rw [after, selectRequests, if_pos (isSome_rangeAt_iff.mpr offered)]
    rfl
  · intro beyond
    rw [after, selectRequests, if_neg (mt isSome_rangeAt_iff.mp beyond)]
    rfl
  · intro bus alike
    have offers : ∀ past, bus.answer past .offeredRanges = s.talk.bus.answer past .offeredRanges :=
      fun past => alike past .offeredRanges (Request.offeredRanges_ne s.id index)
    have uses : ∀ past, bus.answer past .currentRange = s.talk.bus.answer past .currentRange :=
      fun past => alike past .currentRange (Request.currentRange_ne s.id index)
    rw [Bool.eq_iff_iff, setDataRangeIndex_fst_iff, setDataRangeIndex_fst_iff]
    simp only [Offered, offers, uses]
  · rw [after]

end Session

end SensorClient
