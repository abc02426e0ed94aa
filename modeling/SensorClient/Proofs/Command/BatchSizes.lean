import SensorClient.Proofs.Command.Printing
import SensorClient.Proofs.Command.Waiting
import SensorClient.Proofs.Session.Decoding

/-!
# How many bytes a batch comes to

The daemon says how many records a batch has and the client how large they are. The limit on their
number bounds the one and nothing bounds the other, so the bytes of a batch may be more than a word
can count. The product of the two is then less than it should be: too few bytes are asked for, and
some record is looked for where no bytes are, which breaks the program down. Records of fewer than
2^52 bytes are safe, whatever number is announced. Larger ones are not, but what is handed on is
right for records of any size.

## Main definitions

* `Decoder.MeetsBatch`: what is made of a batch once the number of its records is known
* `Session.CountsBatches`: what a session hands on of batches, and what becomes of the others

## Main results

* `Decoder.meetsBatch`: the bytes that are asked for, and where the records lie in them
* `Decoder.forall_fits_iff`: the sizes for which every batch that is not given up can be counted
* `Session.dataReceived_of_wrap`: what becomes of a batch that cannot be counted
* `batch_sizes_in_words`: all of this for a decoder, and what its sessions hand on
-/

namespace SensorClient

namespace Decoder

variable {σ : Type} {size count : Nat}

/-- What is made of a batch of so many records of one size, once their number has been read. -/
structure MeetsBatch (sink : σ → List Bytes → σ) (state : σ) (size count : Nat) : Prop where
  /-- Every multiple of the size up to that number comes out right exactly if the last one is a
  word. -/
  products : (∀ i ≤ count, wordProduct i size = i * size) ↔ count * size < UInt64.size
  /-- Then the bytes of the batch are asked for, neither more nor fewer. All records lie inside them
  and are handed on. -/
  counted : count * size < UInt64.size → ∃ next,
    takeBatch size count sink state = .take (count * size) next ∧
      next none = .done (false, state) ∧
      ∀ payload : Bytes, payload.length = count * size →
        (∀ i < count, Bytes.Inside size i payload) ∧
          next (some payload) = .done (true, sink state <|
            (List.range count).map fun i => (payload.drop (i * size)).take size)
  /-- Otherwise fewer bytes are asked for. Whatever they are, some record does not lie inside them,
  and the program breaks down. -/
  wrapped : UInt64.size ≤ count * size → ∃ wanted next,
    wanted < count * size ∧ takeBatch size count sink state = .take wanted next ∧
      next none = .done (false, state) ∧
      ∀ payload : Bytes, payload.length = wanted →
        (∃ i < count, ¬ Bytes.Inside size i payload) ∧
          next (some payload) = .breakdown (false, state)

theorem forall_wordProduct_iff (size count : Nat) :
    (∀ i ≤ count, wordProduct i size = i * size) ↔ count * size < UInt64.size := by
  constructor
  · intro same
    exact wordProduct_eq_iff.mp (same count (Nat.le_refl _))
  · intro fits i le
    exact wordProduct_of_lt (Nat.lt_of_le_of_lt (Nat.mul_le_mul_right size le) fits)

/-- The limit on the number of records is enough for records of fewer than 2^52 bytes, and for no
larger ones. -/
theorem forall_fits_iff (size : Nat) :
    (∀ header : Bytes, header.length = 4 → Bytes.toWord header ≤ maxBatchRecords →
      Bytes.toWord header * size < UInt64.size) ↔ size < 2 ^ 52 := by
  constructor
  · intro fits
    have most := fits (Bytes.ofWord 4 maxBatchRecords) rfl (by decide)
    rw [show Bytes.toWord (Bytes.ofWord 4 maxBatchRecords) = 4096 by decide, UInt64.size] at most
    omega
  · intro small header _ few
    have most : Bytes.toWord header * size ≤ maxBatchRecords * size := Nat.mul_le_mul_right size few
    unfold maxBatchRecords at most
    rw [UInt64.size]
    omega

/-- The bytes of a batch are asked for, and its records lie inside them, exactly if a word can count
them. -/
theorem meetsBatch (size_lt : size < UInt64.size) (count : Nat) (sink : σ → List Bytes → σ)
    (state : σ) : MeetsBatch sink state size count where
  products := forall_wordProduct_iff size count
  counted := by
    intro fits
    have product := wordProduct_of_lt fits
    refine ⟨_, by rw [takeBatch, product], rfl, fun payload length => ?_⟩
    rw [← product] at length
    refine ⟨(Bytes.forall_inside_iff size_lt length).mpr fits, ?_⟩
    dsimp only
    rw [Bytes.slices?_of_wordProduct length, if_pos fits, ← Bytes.cut_eq_map]
  wrapped := by
    intro wraps
    have unfit := Nat.not_lt.mpr wraps
    refine ⟨_, _, Nat.lt_of_lt_of_le (wordProduct_lt count size) wraps, rfl, rfl,
      fun payload length => ⟨?_, ?_⟩⟩
    · by_contra all
      -- If all records lay inside, a word could count their bytes.
      refine unfit ((Bytes.forall_inside_iff size_lt length).mp fun i less => ?_)
      by_contra outside
      exact all ⟨i, less, outside⟩
    · dsimp only
      rw [Bytes.slices?_of_wordProduct length, if_neg unfit]

/-- Taking a batch that no word can count breaks the program down unless the bytes that are asked
for instead are not there. -/
theorem oversized_takeBatch_iff {sink : σ → List Bytes → σ} {state : σ} {r : Reader} {link : Link}
    (wraps : UInt64.size ≤ count * size) (held : r.link = some link) (sound : link.broken = false)
    (returned : r.halted = none) :
    ((takeBatch size count sink state).run r).2.halted = some .oversized ↔
      Reader.readLimit ≤ wordProduct count size ∨ wordProduct count size ≤ link.inbound.length := by
  rw [run_takeBatch_of_le wraps]
  generalize wordProduct count size = wanted
  rcases Nat.lt_or_ge wanted Reader.readLimit with bounded | oversized
  · rcases Nat.lt_or_ge link.inbound.length wanted with short | enough
    · -- The read fails as any other does that finds too few bytes.
      have kept := Reader.readBytes_ne_oversized bounded (r := r) (by simp [returned])
      obtain ⟨halted, failed⟩ := Reader.readBytes_of_lt held sound bounded short
      rw [failed] at kept ⊢
      exact iff_of_false kept (by omega)
    · rw [Reader.readBytes_of_le held sound bounded enough]
      simp [returned, enough]
  · rw [Reader.readBytes_of_oversized held oversized]
    simp [returned, oversized]

/-- A drain of batches hands them on, and ends with the number behind them of a batch that no word
can count. -/
theorem drain_batch_of_wrap (interface : String) (sink : σ → List Bytes → σ) (state : σ)
    {r : Reader} {link : Link} {batches : List (List Bytes)} {header rest : Bytes}
    (all : ∀ records ∈ batches, IsBatch size records) (length : header.length = 4)
    (few : Bytes.toWord header ≤ maxBatchRecords)
    (wraps : UInt64.size ≤ Bytes.toWord header * size) (held : r.link = some link)
    (sound : link.broken = false)
    (inbound : link.inbound = batches.flatMap Bytes.ofBatch ++ (header ++ rest)) :
    (batch interface size sink).drain state r =
      (batches.length + 1, batches.foldl sink state,
        ((takeBatch size (Bytes.toWord header) sink (batches.foldl sink state)).run
          { r with link := some { link with inbound := rest } }).2) := by
  have behind : header ++ rest ≠ [] :=
    List.append_ne_nil_of_left_ne_nil (List.ne_nil_of_length_pos (by omega)) rest
  have there : Reader.link { r with link := some { link with inbound := header ++ rest } } =
      some { link with inbound := header ++ rest } := rfl
  have pass : ((batch interface size sink).pass (batches.foldl sink state)).run
      { r with link := some { link with inbound := header ++ rest } } = _ :=
    run_batch_of_few there sound length few rfl
  -- A pass that hands nothing on ends the drain.
  have nothing := congrArg Prod.fst <| run_takeBatch_of_le wraps sink (batches.foldl sink state)
    { r with link := some { link with inbound := rest } }
  have useless : ¬ (batch interface size sink).GoesOn 0 (batches.foldl sink state)
      { r with link := some { link with inbound := header ++ rest } } := by
    simp [goesOn_zero, pass, nothing]
  rw [drain_takes_append (takes_batch interface size sink) all behind state held sound inbound,
    drain_of_not_goesOn useless, pass, nothing]

end Decoder

/-! ## Sessions -/

namespace Session

variable {σ : Type} {s : Session σ} {interface : String} {size : Nat} {sink : σ → List Bytes → σ}

/-- A drain that comes to a batch that no word can count hands on those before it, and nothing more.
The program breaks down unless the bytes that are asked for instead are not there. -/
theorem dataReceived_of_wrap {batches : List (List Bytes)} {header rest : Bytes}
    (decoder : s.decoder = .batch interface size sink) (sound : s.reader.Sound)
    (returned : s.reader.halted = none) (all : ∀ batch ∈ batches, IsBatch size batch)
    (length : header.length = 4) (few : Bytes.toWord header ≤ Decoder.maxBatchRecords)
    (wraps : UInt64.size ≤ Bytes.toWord header * size)
    (pending : s.pending = batches.flatMap Bytes.ofBatch ++ (header ++ rest)) :
    s.dataReceived.1 = batches.length + 1 ∧ s.dataReceived.2.sink = batches.foldl sink s.sink ∧
      (s.dataReceived.2.reader.halted = some .oversized ↔
        Reader.readLimit ≤ wordProduct (Bytes.toWord header) size ∨
          wordProduct (Bytes.toWord header) size ≤ rest.length) := by
  obtain ⟨link, held, valid⟩ := sound
  have inbound := (pending_of_held held).symm.trans pending
  have drained := Decoder.drain_batch_of_wrap interface sink s.sink all length few wraps held valid
    inbound
  rw [← decoder] at drained
  rw [dataReceived_of_drain drained]
  have behind : Reader.link { s.reader with link := some { link with inbound := rest } } =
      some { link with inbound := rest } := rfl
  exact ⟨rfl, rfl, Decoder.oversized_takeBatch_iff wraps behind valid returned⟩

/-- What a session hands on of batches of records of one size, and what becomes of the others. -/
structure CountsBatches (s : Session σ) (sink : σ → List Bytes → σ) (size : Nat) : Prop where
  /-- Whatever becomes of the session, it hands on nothing but batches that are not given up and
  that a word can count: what each of these keeps is kept. -/
  handsOn : ∀ P : σ → Prop, P s.sink →
    (∀ state records, (∀ record ∈ records, record.length = size) →
      records.length ≤ Decoder.maxBatchRecords → records.length * size < UInt64.size →
      P state → P (sink state records)) →
    ∀ events, P (s.run events).sink
  /-- A drain that comes to a batch that no word can count hands on those before it, and nothing
  more. The program breaks down unless the bytes that are asked for instead are not there. -/
  wrapped : s.reader.Sound → s.reader.halted = none →
    ∀ batches : List (List Bytes), (∀ batch ∈ batches, IsBatch size batch) →
    ∀ header rest : Bytes, header.length = 4 → Bytes.toWord header ≤ Decoder.maxBatchRecords →
    UInt64.size ≤ Bytes.toWord header * size →
    s.pending = batches.flatMap Bytes.ofBatch ++ (header ++ rest) →
    s.dataReceived.1 = batches.length + 1 ∧ s.dataReceived.2.sink = batches.foldl sink s.sink ∧
      (s.dataReceived.2.reader.halted = some .oversized ↔
        Reader.readLimit ≤ wordProduct (Bytes.toWord header) size ∨
          wordProduct (Bytes.toWord header) size ≤ rest.length)

theorem countsBatches (decoder : s.decoder = .batch interface size sink) :
    s.CountsBatches sink size where
  handsOn := by
    intro P start kept events
    have keeps : s.decoder.Keeps P := decoder ▸ Decoder.keeps_batch interface
      fun state records batch holds => by
        -- The bytes of a batch that is handed on have been in memory.
        have fits := Nat.lt_trans batch.bounded Reader.readLimit_lt
        rw [batch.length_flatten] at fits
        exact kept state records batch.whole batch.few fits holds
    exact keeps.run start events
  wrapped := by
    intro sound returned batches all header rest length few wraps pending
    exact dataReceived_of_wrap decoder sound returned all length few wraps pending

end Session

/-- How many bytes a batch comes to. For records of any size that a word can hold, and any number of
them that is not given up, the products of the decoder are right exactly if a word can count the
bytes of the batch: then just these are asked for, and all records lie inside them; otherwise fewer
are asked for, and looking for the records breaks the program down. Every such number is safe
exactly for records of fewer than 2^52 bytes. Whatever becomes of a session, it hands on nothing but
batches that can be counted; at one that cannot its drain ends, and it breaks down unless the bytes
that are asked for instead are missing. -/
theorem batch_sizes_in_words {σ : Type} (interface : String) {size : Nat}
    (size_lt : size < UInt64.size) (sink : σ → List Bytes → σ) :
    (∀ state, ∃ next, (Decoder.batch interface size sink).pass state = .take 4 next ∧
      ∀ header : Bytes, header.length = 4 → Bytes.toWord header ≤ Decoder.maxBatchRecords →
        next (some header) = Decoder.takeBatch size (Bytes.toWord header) sink state ∧
          Decoder.MeetsBatch sink state size (Bytes.toWord header)) ∧
      ((∀ header : Bytes, header.length = 4 → Bytes.toWord header ≤ Decoder.maxBatchRecords →
        Bytes.toWord header * size < UInt64.size) ↔ size < 2 ^ 52) ∧
      ∀ s : Session σ, s.decoder = .batch interface size sink → s.CountsBatches sink size := by
  refine ⟨?_, Decoder.forall_fits_iff size, fun s decoder => Session.countsBatches decoder⟩
  intro state
  refine ⟨_, rfl, fun header _ few => ⟨?_, Decoder.meetsBatch size_lt _ sink state⟩⟩
  exact if_neg (Nat.not_lt.mpr few)

/-- A session whose daemon has acknowledged it and sent these bytes after that, and which keeps
batches of records of some size. -/
def Session.batchingSize (size : Nat) (bytes : Bytes) : Session (List (List Bytes)) :=
  overLink "/SensorManager/accelerometersensor" (.begin (.unreachable "no daemon"))
    SocketConfig.initial (.fresh 0 (6 :: bytes))
    (.batch "local.AccelerometerSensor" size fun kept batch => kept ++ [batch]) [] 7 4242

/-- Two records of three bytes are found in the six bytes that are asked for. For four records of
2^62 + 1 bytes only four bytes are asked for. These are there, behind an empty batch, so the program
breaks down. -/
theorem batch_sizes_in_words_four :
    (∃ next, Decoder.takeBatch 3 2 (fun kept batch => kept ++ [batch]) [] = .take 6 next ∧
      next (some [1, 2, 3, 4, 5, 6]) = .done (true, [[[1, 2, 3], [4, 5, 6]]])) ∧
    let s := Session.batchingSize 4611686018427387905 [0, 0, 0, 0, 4, 0, 0, 0, 1, 2, 3, 4]
    s.dataReceived.1 = 2 ∧ s.dataReceived.2.sink = [[]] ∧
      s.dataReceived.2.reader.halted = some .oversized := by
  constructor
  · obtain ⟨passes, -⟩ := batch_sizes_in_words "local.AccelerometerSensor"
      (show 3 < UInt64.size by decide) fun (kept : List (List Bytes)) batch => kept ++ [batch]
    obtain ⟨next, -, found⟩ := passes []
    obtain ⟨-, meets⟩ := found [2, 0, 0, 0] rfl (by decide)
    obtain ⟨next, asked, -, records⟩ := meets.counted (by decide)
    exact ⟨next, asked, (records [1, 2, 3, 4, 5, 6] rfl).2⟩
  · intro s
    obtain ⟨-, -, sessions⟩ := batch_sizes_in_words "local.AccelerometerSensor"
      (show 4611686018427387905 < UInt64.size by decide)
      fun (kept : List (List Bytes)) batch => kept ++ [batch]
    have empty : ∀ batch ∈ [[]], IsBatch 4611686018427387905 batch := by
      rintro _ (_ | ⟨_, ⟨⟩⟩)
      exact ⟨nofun, by decide, by decide⟩
    obtain ⟨twice, handedOn, breaks⟩ := (sessions s rfl).wrapped ⟨_, rfl, rfl⟩ rfl [[]] empty
      [4, 0, 0, 0] [1, 2, 3, 4] rfl (by decide) (by decide) rfl
    exact ⟨twice, handedOn, breaks.mpr (.inr (by decide))⟩

/-- A stream of one batch of records of some size, from a daemon that sends this. -/
def streamBatch (size : Nat) (arrival : Bytes) : Execution :=
  runStream (.stopping arrival) .raw .sampling ⟨"alssensor", none⟩
    { StreamOptions.single "5s" with layout := .bytes size, batch := true }

/-- Two records of 2^63 bytes are a batch of 2^64, for which no byte is asked. None of the records
lies inside that, so a stream that is told of two such records breaks down: its session is handed
back, but not stopped. -/
theorem batch_product_wraps :
    let size := 9223372036854775808
    let stream := streamBatch size [2, 0, 0, 0]
    0 < size ∧ size < UInt64.size ∧ Bytes.toWord [2, 0, 0, 0] ≤ Decoder.maxBatchRecords ∧
      ¬ Bytes.toWord [2, 0, 0, 0] * size < UInt64.size ∧
      wordProduct (Bytes.toWord [2, 0, 0, 0]) size = 0 ∧ (∀ i < 2, ¬ Bytes.Inside size i []) ∧
      stream.ending = .breakdown ∧ stream.output = [] ∧
      (stream.messages.filter (Message.calls "start")).length = 1 ∧
      stream.messages.filter (Message.calls "stop") = [] ∧
      (stream.messages.filter (Message.calls "releaseSensor")).length = 1 := by
  refine ⟨by decide, by decide, by decide, by decide, by decide, ?_, ?_⟩
  · unfold Bytes.Inside
    decide
  · decide +kernel

end SensorClient
