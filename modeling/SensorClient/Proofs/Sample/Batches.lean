import SensorClient.Proofs.Sample.FixedRecords
import SensorClient.Proofs.Sample.Slices

/-!
# Draining whole units

A decoder takes its input in units: single records, or batches of them with their number in front.
Where whole units are there, each pass takes the next one and nothing of what follows it. A drain
hands on all of them, in order, and leaves nothing.

## Main definitions

* `Decoder.Takes`: each pass takes one unit off the bytes that are there
* `Bytes.ofBatch`: a batch as it is sent
* `IsRecord`, `IsBatch`: the units that can be sent

## Main results

* `Decoder.drain_takes_append`, `Decoder.drain_takes`: a drain hands on whole units one by one, and
  then drains what is behind them
* `Decoder.takes_fixed`, `Decoder.takes_batch`: the decoders of single records and of batches
-/

namespace SensorClient

/-- A read takes what it asks for off the front, and leaves what follows. -/
theorem Reader.readBytes_of_append {r : Reader} {link : Link} {bytes later : Bytes}
    (held : r.link = some link) (sound : link.broken = false) (bounded : bytes.length < readLimit)
    (inbound : link.inbound = bytes ++ later) :
    r.readBytes bytes.length =
      (some bytes, { r with link := some { link with inbound := later } }) := by
  have enough : bytes.length ≤ link.inbound.length := by
    rw [inbound, List.length_append]
    exact Nat.le_add_right _ _
  rw [readBytes_of_le held sound bounded enough, inbound, List.take_left, List.drop_left]

namespace Decoder

variable {σ α : Type}

/-- Each pass takes the next unit off the bytes that are there, and delivers it. -/
structure Takes (decoder : Decoder σ) (whole : α → Prop) (encode : α → Bytes)
    (deliver : σ → α → σ) : Prop where
  nonempty : ∀ unit, whole unit → encode unit ≠ []
  pass : ∀ {unit later r link}, whole unit → r.link = some link → link.broken = false →
    link.inbound = encode unit ++ later → ∀ state,
    (decoder.pass state).run r =
      ((true, deliver state unit), { r with link := some { link with inbound := later } })

variable {decoder : Decoder σ} {whole : α → Prop} {encode : α → Bytes} {deliver : σ → α → σ}
  {r : Reader} {link : Link}

theorem Takes.flatMap_ne_nil (takes : decoder.Takes whole encode deliver) {units : List α}
    (some : units ≠ []) (all : ∀ unit ∈ units, whole unit) : units.flatMap encode ≠ [] := by
  obtain ⟨unit, rest, rfl⟩ := List.exists_cons_of_ne_nil some
  rw [List.flatMap_cons]
  exact List.append_ne_nil_of_left_ne_nil (takes.nonempty unit (all unit List.mem_cons_self)) _

/-- A drain that finds whole units with something behind them hands the units on one by one, and then
drains what is behind them. -/
theorem drain_takes_append (takes : decoder.Takes whole encode deliver) {units : List α} {rest : Bytes}
    (all : ∀ unit ∈ units, whole unit) (more : rest ≠ []) (state : σ) (held : r.link = some link)
    (sound : link.broken = false) (inbound : link.inbound = units.flatMap encode ++ rest) :
    decoder.drain state r =
      let later := decoder.drain (units.foldl deliver state)
        { r with link := some { link with inbound := rest } }
      (units.length + later.1, later.2) := by
  induction units generalizing state r link with
  | nil =>
    rw [List.flatMap_nil, List.nil_append] at inbound
    subst inbound
    simp [← held]
  | cons unit units ih =>
    rw [List.forall_mem_cons] at all
    rw [List.flatMap_cons, List.append_assoc] at inbound
    have first := takes.pass all.1 held sound inbound state
    -- The first unit took some bytes, and there are some left.
    have taken := List.length_pos_iff.mpr (takes.nonempty unit all.1)
    have left := List.length_pos_iff.mpr (List.append_ne_nil_of_right_ne_nil
      (units.flatMap encode) more)
    have before := Reader.bytesAvailable_of_sound link held sound
    have after : Reader.bytesAvailable
        { r with link := some { link with inbound := units.flatMap encode ++ rest } } =
        (units.flatMap encode ++ rest).length :=
      Reader.bytesAvailable_of_sound { link with inbound := units.flatMap encode ++ rest } rfl sound
    rw [inbound, List.length_append] at before
    have later := ih all.2 (deliver state unit)
      (r := { r with link := some { link with inbound := units.flatMap encode ++ rest } }) rfl sound
      rfl
    rw [drain_eq, first]
    dsimp only
    rw [before, after, if_pos ⟨rfl, left, by omega⟩, later, List.length_cons, List.foldl_cons]
    simp only [Nat.add_right_comm]

/-- A drain that finds whole units hands them on one by one, and leaves nothing. -/
theorem drain_takes (takes : decoder.Takes whole encode deliver) {units : List α}
    (some : units ≠ []) (all : ∀ unit ∈ units, whole unit) (state : σ) (held : r.link = .some link)
    (sound : link.broken = false) (inbound : link.inbound = units.flatMap encode) :
    decoder.drain state r =
      (units.length, units.foldl deliver state,
        { r with link := .some { link with inbound := [] } }) := by
  -- The last unit is behind the others, and the pass that takes it leaves nothing.
  obtain ⟨units, last, rfl⟩ : ∃ before last, units = before ++ [last] :=
    ⟨_, _, (List.dropLast_concat_getLast some).symm⟩
  rw [List.forall_mem_append, List.forall_mem_singleton] at all
  rw [List.flatMap_append, List.flatMap_singleton] at inbound
  have nonempty := takes.nonempty last all.2
  have there : Reader.link { r with link := .some { link with inbound := encode last } } =
      .some { link with inbound := encode last } := rfl
  have pass := takes.pass all.2 there sound (List.append_nil _).symm (units.foldl deliver state)
  have after : Reader.bytesAvailable { r with link := .some { link with inbound := [] } } = 0 :=
    Reader.bytesAvailable_of_sound { link with inbound := [] } rfl sound
  rw [drain_takes_append takes all.1 nonempty state held sound inbound, drain_eq, pass]
  simp [after]

end Decoder

/-! ## Records and batches -/

/-- A record of a size that can be read. -/
def IsRecord (size : Nat) (record : Bytes) : Prop :=
  record.length = size ∧ size < Reader.readLimit

/-- A batch as it is sent: how many records there are, and the records. -/
def Bytes.ofBatch (records : List Bytes) : Bytes := ofWord 4 records.length ++ records.flatten

/-- A batch of records of one size that is not given up: there are not too many of them, and some
memory can hold their bytes. -/
structure IsBatch (size : Nat) (records : List Bytes) : Prop where
  whole : ∀ record ∈ records, record.length = size
  few : records.length ≤ Decoder.maxBatchRecords
  bounded : records.flatten.length < Reader.readLimit

theorem length_flatten_of_whole {size : Nat} {records : List Bytes}
    (whole : ∀ record ∈ records, record.length = size) :
    records.flatten.length = records.length * size := by
  rw [List.length_flatten, List.map_congr_left whole, List.map_const', List.sum_replicate_nat]

/-- The number in front of a batch is the number of its records. -/
theorem toWord_length_of_few {records : List Bytes}
    (few : records.length ≤ Decoder.maxBatchRecords) :
    Bytes.toWord (Bytes.ofWord 4 records.length) = records.length := by
  rw [Bytes.toWord_ofWord]
  unfold Decoder.maxBatchRecords at few
  exact Nat.mod_eq_of_lt (Nat.lt_of_le_of_lt few (by decide))

theorem cut_flatten {size : Nat} {records : List Bytes}
    (whole : ∀ record ∈ records, record.length = size) :
    Bytes.cut size records.length records.flatten = records := by
  induction records with
  | nil => rfl
  | cons record records ih =>
    rw [List.forall_mem_cons] at whole
    rw [List.length_cons, List.flatten_cons, Bytes.cut, ← whole.1, List.take_left, List.drop_left,
      whole.1, ih whole.2]

namespace IsBatch

variable {size : Nat} {records : List Bytes}

theorem length_flatten (batch : IsBatch size records) :
    records.flatten.length = records.length * size :=
  length_flatten_of_whole batch.whole

theorem isRecord (batch : IsBatch size records) {record : Bytes} (mem : record ∈ records) :
    IsRecord size record := by
  have bounded := batch.bounded
  rw [batch.length_flatten] at bounded
  exact ⟨batch.whole record mem,
    Nat.lt_of_le_of_lt (Nat.le_mul_of_pos_left size (List.length_pos_of_mem mem)) bounded⟩

theorem toWord_length (batch : IsBatch size records) :
    Bytes.toWord (Bytes.ofWord 4 records.length) = records.length :=
  toWord_length_of_few batch.few

end IsBatch

namespace Decoder

variable {σ : Type}

/-- A batch whose bytes a word can count is taken by one read of all of them, and its records are
cut from these. -/
theorem run_takeBatch {size count : Nat} (fits : count * size < UInt64.size)
    (sink : σ → List Bytes → σ) (state : σ) (r : Reader) :
    (takeBatch size count sink state).run r =
      (match (r.readBytes (count * size)).1 with
        | none => (false, state)
        | some payload => (true, sink state (Bytes.cut size count payload)),
        (r.readBytes (count * size)).2) := by
  rw [takeBatch, Pass.run, wordProduct_of_lt fits]
  dsimp only
  cases read : (r.readBytes (count * size)).1 with
  | none => rfl
  | some payload =>
    have length := (Reader.length_readBytes read).trans (wordProduct_of_lt fits).symm
    dsimp only
    rw [Bytes.slices?_of_wordProduct length, if_pos fits]
    rfl

/-- Of a batch whose bytes no word can count nothing is handed on. The program breaks down unless
the read fails. -/
theorem run_takeBatch_of_le {size count : Nat} (wraps : UInt64.size ≤ count * size)
    (sink : σ → List Bytes → σ) (state : σ) (r : Reader) :
    (takeBatch size count sink state).run r =
      ((false, state),
        match r.readBytes (wordProduct count size) with
        | (none, r) => r
        | (some _, r) => { r with halted := r.halted <|> some .oversized }) := by
  rw [takeBatch, Pass.run]
  dsimp only
  cases read : r.readBytes (wordProduct count size) with
  | mk found r' =>
    cases found with
    | none => rfl
    | some payload =>
      have length := Reader.length_readBytes (congrArg Prod.fst read)
      dsimp only
      rw [Bytes.slices?_of_wordProduct length, if_neg (Nat.not_lt.mpr wraps)]
      rfl

/-- Taking a batch that is not given up hands on a batch or nothing. -/
theorem run_takeBatch_fst {size count : Nat} (few : count ≤ maxBatchRecords)
    (sink : σ → List Bytes → σ) (state : σ) (r : Reader) :
    ((takeBatch size count sink state).run r).1 = (false, state) ∨
      ∃ records, IsBatch size records ∧
        ((takeBatch size count sink state).run r).1 = (true, sink state records) := by
  rcases Nat.lt_or_ge (count * size) UInt64.size with fits | wraps
  · rw [run_takeBatch fits]
    cases read : (r.readBytes (count * size)).1 with
    | none => exact .inl rfl
    | some payload =>
      have all : payload.length = size * count :=
        (Reader.length_readBytes read).trans (Nat.mul_comm _ _)
      refine .inr ⟨_, ⟨fun record mem => length_of_mem_cut (Nat.le_of_eq all.symm) mem, ?_, ?_⟩, rfl⟩
      · rwa [Bytes.length_cut]
      · rw [flatten_cut, ← all, List.take_length, Reader.length_readBytes read]
        exact Reader.lt_readLimit_of_readBytes read
  · rw [run_takeBatch_of_le wraps]
    exact .inl rfl

/-- A pass that finds the number of a batch which is not given up takes that batch. -/
theorem run_batch_of_few {interface : String} {size : Nat} {sink : σ → List Bytes → σ} {state : σ}
    {r : Reader} {link : Link} {header rest : Bytes} (held : r.link = some link)
    (sound : link.broken = false) (length : header.length = 4)
    (few : Bytes.toWord header ≤ maxBatchRecords) (inbound : link.inbound = header ++ rest) :
    ((batch interface size sink).pass state).run r =
      (takeBatch size (Bytes.toWord header) sink state).run
        { r with link := some { link with inbound := rest } } := by
  have number := Reader.readBytes_of_append held sound (by rw [length]; decide) inbound
  rw [length] at number
  simp only [batch, Pass.run, number, if_neg (Nat.not_lt.mpr few)]

/-- The decoder of single records takes them one by one. -/
theorem takes_fixed (interface : String) {size : Nat} (positive : 0 < size)
    (sink : σ → Bytes → σ) : (fixed interface size sink).Takes (IsRecord size) id sink where
  nonempty record whole := by
    rw [id, ← List.length_pos_iff, whole.1]
    exact positive
  pass := by
    intro record later r link whole held sound inbound state
    obtain ⟨rfl, bounded⟩ := whole
    simp [fixed, Pass.run, Reader.readBytes_of_append held sound bounded inbound]

/-- The decoder of batches takes them one by one, the empty ones too. -/
theorem takes_batch (interface : String) (size : Nat) (sink : σ → List Bytes → σ) :
    (batch interface size sink).Takes (IsBatch size) Bytes.ofBatch sink where
  nonempty records _ := by
    rw [← List.length_pos_iff, Bytes.ofBatch, List.length_append, Bytes.length_ofWord]
    exact Nat.lt_add_right _ (by decide)
  pass := by
    intro records later r link whole held sound inbound state
    rw [Bytes.ofBatch, List.append_assoc] at inbound
    have few := whole.few
    rw [← whole.toWord_length] at few
    have behind : Reader.link
        { r with link := some { link with inbound := records.flatten ++ later } } =
        some { link with inbound := records.flatten ++ later } := rfl
    have payload := Reader.readBytes_of_append behind sound whole.bounded rfl
    have fits := Nat.lt_trans whole.bounded Reader.readLimit_lt
    rw [whole.length_flatten] at payload fits
    rw [run_batch_of_few held sound (Bytes.length_ofWord 4 _) few inbound, whole.toWord_length,
      run_takeBatch fits, payload]
    simp only [cut_flatten whole.whole]

end Decoder

end SensorClient
