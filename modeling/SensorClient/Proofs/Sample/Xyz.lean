import SensorClient.Sample.Xyz

/-!
# What a record of three axes holds

A record is long enough for a sample or holds none. The sample in it is the one whose bytes stand at
its start: nothing of them is lost in reading, and nothing behind them is looked at.

## Main results

* `XyzSample.decode?_append`: the bytes of a sample, with four behind them, are read as that sample
* `XyzSample.decode?_eq_some_iff`: the sample that a record holds
* `XyzSample.decode?_eq_iff`: two records hold the same if their first twenty bytes are the same
-/

namespace SensorClient.XyzSample

variable {s : XyzSample} {record : Bytes}

@[simp] theorem length_encode (s : XyzSample) : s.encode.length = 20 := by
  simp [encode]

/-- A record that is too short for a sample holds none. -/
theorem decode?_of_lt (short : record.length < size) : decode? record = none := if_pos short

/-- The bytes of a sample, with four behind them, are read as that sample. -/
theorem decode?_append (s : XyzSample) {padding : Bytes} (enough : 4 ≤ padding.length) :
    decode? (s.encode ++ padding) = some s := by
  have long : ¬ (s.encode ++ padding).length < size := by
    rw [List.length_append, length_encode, size]
    omega
  -- Each field is found where it starts, because of the lengths of those before it.
  have time : (s.encode ++ padding).take 8 = Bytes.ofUInt64 s.timestamp := by
    simp only [encode, List.append_assoc]
    exact List.take_left' (Bytes.length_ofUInt64 _)
  have x : ((s.encode ++ padding).drop 8).take 4 = Bytes.ofInt32 s.x := by
    simp only [encode, List.append_assoc]
    rw [List.drop_left' (Bytes.length_ofUInt64 _)]
    exact List.take_left' (Bytes.length_ofInt32 _)
  have y : ((s.encode ++ padding).drop 12).take 4 = Bytes.ofInt32 s.y := by
    have before : (Bytes.ofUInt64 s.timestamp ++ Bytes.ofInt32 s.x).length = 12 := by simp
    rw [encode, List.append_assoc, List.append_assoc, List.drop_left' before]
    exact List.take_left' (Bytes.length_ofInt32 _)
  have z : ((s.encode ++ padding).drop 16).take 4 = Bytes.ofInt32 s.z := by
    have before :
        (Bytes.ofUInt64 s.timestamp ++ Bytes.ofInt32 s.x ++ Bytes.ofInt32 s.y).length = 16 := by
      simp
    rw [encode, List.append_assoc, List.drop_left' before]
    exact List.take_left' (Bytes.length_ofInt32 _)
  unfold decode?
  rw [if_neg long, time, x, y, z, Bytes.toUInt64_ofUInt64, Bytes.toInt32_ofInt32,
    Bytes.toInt32_ofInt32, Bytes.toInt32_ofInt32]

/-- The sample that is read of a record has the bytes at the start of the record. -/
theorem encode_of_decode? (decoded : decode? record = some s) : s.encode = record.take 20 := by
  unfold decode? at decoded
  split at decoded
  · cases decoded
  · next long =>
    cases decoded
    rw [size] at long
    have eight : (record.take 8).length = 8 := by
      rw [List.length_take]
      omega
    have four (at_ : Nat) (within : at_ + 4 ≤ 24) : ((record.drop at_).take 4).length = 4 := by
      rw [List.length_take, List.length_drop]
      omega
    dsimp only [encode]
    rw [Bytes.ofUInt64_toUInt64 eight, Bytes.ofInt32_toInt32 (four 8 (by decide)),
      Bytes.ofInt32_toInt32 (four 12 (by decide)), Bytes.ofInt32_toInt32 (four 16 (by decide))]
    calc record.take 8 ++ (record.drop 8).take 4 ++ (record.drop 12).take 4 ++
          (record.drop 16).take 4
        = record.take 12 ++ (record.drop 12).take 4 ++ (record.drop 16).take 4 := by
          rw [← List.take_add (l := record) (i := 8) (j := 4)]
      _ = record.take 16 ++ (record.drop 16).take 4 := by
          rw [← List.take_add (l := record) (i := 12) (j := 4)]
      _ = record.take 20 := by
          rw [← List.take_add (l := record) (i := 16) (j := 4)]

/-- The sample that a record holds is the one whose bytes stand at its start. -/
theorem decode?_eq_some_iff :
    decode? record = some s ↔ size ≤ record.length ∧ s.encode = record.take 20 := by
  constructor
  · intro decoded
    refine ⟨?_, encode_of_decode? decoded⟩
    by_cases long : size ≤ record.length
    · exact long
    · rw [decode?_of_lt (Nat.lt_of_not_le long)] at decoded
      cases decoded
  · rintro ⟨long, same⟩
    have enough : 4 ≤ (record.drop 20).length := by
      rw [List.length_drop]
      exact Nat.le_sub_of_add_le long
    rw [← List.take_append_drop 20 record, ← same]
    exact decode?_append s enough

/-- A record that is long enough holds a sample. -/
theorem exists_decode?_eq_some (long : size ≤ record.length) : ∃ s, decode? record = some s :=
  ⟨_, if_neg (Nat.not_lt.mpr long)⟩

/-- Records that are long enough all hold samples. -/
theorem exists_samples {records : List Bytes}
    (long : ∀ record ∈ records, size ≤ record.length) :
    ∃ samples : List XyzSample, records.map decode? = samples.map some := by
  induction records with
  | nil => exact ⟨[], rfl⟩
  | cons record records ih =>
    rw [List.forall_mem_cons] at long
    obtain ⟨s, decoded⟩ := exists_decode?_eq_some long.1
    obtain ⟨samples, rest⟩ := ih long.2
    refine ⟨s :: samples, ?_⟩
    rw [List.map_cons, List.map_cons, decoded, rest]

/-- Two records hold the same exactly if their first twenty bytes are the same. -/
theorem decode?_eq_iff {record' : Bytes} (long : size ≤ record.length)
    (long' : size ≤ record'.length) :
    decode? record = decode? record' ↔ record.take 20 = record'.take 20 := by
  obtain ⟨s', decoded'⟩ := exists_decode?_eq_some long'
  constructor
  · intro same
    have decoded : decode? record = some s' := same.trans decoded'
    exact (encode_of_decode? decoded).symm.trans (encode_of_decode? decoded')
  · intro same
    rw [decoded', decode?_eq_some_iff]
    exact ⟨long, (encode_of_decode? decoded').trans same.symm⟩

end SensorClient.XyzSample
