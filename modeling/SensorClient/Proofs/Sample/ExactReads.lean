import SensorClient.Proofs.Sample.FixedRecords

/-!
# Reads of exact length

A read asks a source again and again for the bytes that it still lacks. However the source divides
its bytes into chunks, and wherever it interrupts, only two things count: the bytes that come before
the stream ends or breaks, and which of the two it does. So a read takes exactly the bytes that it
was asked for, or it fails for the reason that ended the stream; and only a read that has got its
bytes writes to the buffer of the caller.

A source may choose each chunk by how much it is asked for. What it chooses in the course of one read
is a list of deliveries all the same, so a statement about every list is one about every source.

## Main definitions

* `Delivery.beforeEnd`, `Delivery.fault`: the bytes that come, and why no more do
* `ReadsExactly`: what a read of so many bytes comes to
* `Reader.FillsBuffer`: what a read into a buffer comes to

## Main results

* `readFull_of_enough`, `readFull_of_short`: a read for which enough bytes come, and another one
* `reads_exactly`: what every read comes to
-/

namespace SensorClient

/-! ## Streams -/

namespace Delivery

/-- The bytes that come before the stream ends or breaks. -/
def beforeEnd : List Delivery → Bytes
  | chunk b rest :: later => b :: rest ++ beforeEnd later
  | interrupted :: later => beforeEnd later
  | endOfStream :: _ | failed _ :: _ | [] => []

/-- Why no more bytes come. -/
def fault : List Delivery → ReadFault
  | chunk _ _ :: later | interrupted :: later => fault later
  | endOfStream :: _ => .closed
  | failed e :: _ => .failed e
  | [] => .waiting

@[simp] theorem beforeEnd_ofBytes_append (bytes : Bytes) (later : List Delivery) :
    beforeEnd (ofBytes bytes ++ later) = bytes ++ beforeEnd later := by
  cases bytes <;> rfl

@[simp] theorem fault_ofBytes_append (bytes : Bytes) (later : List Delivery) :
    fault (ofBytes bytes ++ later) = fault later := by
  cases bytes <;> rfl

end Delivery

open Delivery

/-- A read for which enough bytes come takes the next ones, as many as it asks for. What is left is
the same stream without them. -/
theorem readFull_of_enough {wanted : Nat} {deliveries : List Delivery}
    (enough : wanted ≤ (beforeEnd deliveries).length) :
    ∃ left, readFull wanted deliveries = (.ok ((beforeEnd deliveries).take wanted), left) ∧
      beforeEnd left = (beforeEnd deliveries).drop wanted ∧ fault left = fault deliveries := by
  fun_induction readFull wanted deliveries with
  | case1 deliveries => exact ⟨deliveries, rfl, rfl, rfl⟩
  | case2 => simp [beforeEnd] at enough
  | case3 wanted b rest later few result left found ih =>
    -- The chunk is used up, and the rest of the bytes come from what is delivered after it.
    rw [beforeEnd, List.length_append, List.length_cons] at enough
    obtain ⟨left', taken, after, same⟩ := ih (by omega)
    rw [found] at taken
    obtain ⟨rfl, rfl⟩ := Prod.mk.inj taken
    have lacks : wanted.succ = (b :: rest).length + (wanted - rest.length) := by
      rw [List.length_cons]
      omega
    refine ⟨left, ?_, ?_, same⟩
    · rw [beforeEnd, lacks, List.take_length_add_append]
      rfl
    · rw [beforeEnd, lacks, List.drop_length_add_append, after]
  | case4 wanted b rest later few =>
    -- The chunk holds more than is wanted, and what is over is delivered next.
    have within : wanted + 1 ≤ (b :: rest).length := by
      rw [List.length_cons]
      omega
    refine ⟨_, ?_, ?_, fault_ofBytes_append (rest.drop wanted) later⟩
    · rw [beforeEnd, List.take_append_of_le_length within, List.take_succ_cons]
    · rw [beforeEnd_ofBytes_append, beforeEnd, List.drop_append_of_le_length within,
        List.drop_succ_cons]
  | case5 wanted later ih => exact ih enough
  | case6 => simp [beforeEnd] at enough
  | case7 => simp [beforeEnd] at enough

/-- A read for which too few bytes come fails for the reason that no more come. -/
theorem readFull_of_short {wanted : Nat} {deliveries : List Delivery}
    (short : (beforeEnd deliveries).length < wanted) :
    (readFull wanted deliveries).1 = .error (fault deliveries) := by
  fun_induction readFull wanted deliveries with
  | case1 => exact absurd short (Nat.not_lt_zero _)
  | case2 => rfl
  | case3 wanted b rest later few result left found ih =>
    rw [beforeEnd, List.length_append, List.length_cons] at short
    rw [found] at ih
    have failed : result = .error (fault later) := ih (by omega)
    rw [failed]
    rfl
  | case4 wanted b rest later few =>
    rw [beforeEnd, List.length_append, List.length_cons] at short
    omega
  | case5 wanted later ih => exact ih short
  | case6 => rfl
  | case7 => rfl

/-- A read gives what the bytes that come and the reason that no more do say, and nothing else of
the stream counts. -/
theorem readFull_fst (wanted : Nat) (deliveries : List Delivery) :
    (readFull wanted deliveries).1 =
      if wanted ≤ (beforeEnd deliveries).length then .ok ((beforeEnd deliveries).take wanted)
      else .error (fault deliveries) := by
  split
  · next enough =>
    obtain ⟨left, taken, -⟩ := readFull_of_enough enough
    rw [taken]
  · next short => exact readFull_of_short (Nat.not_le.mp short)

/-- What a read of so many bytes comes to. -/
structure ReadsExactly (wanted : Nat) (deliveries : List Delivery) : Prop where
  /-- It gets its bytes if and only if so many come before the stream ends or breaks. -/
  succeeds : (readFull wanted deliveries).1.isOk = true ↔ wanted ≤ (beforeEnd deliveries).length
  /-- They are the next bytes of the stream, in order, and exactly they are taken from it. -/
  takes : ∀ bytes, (readFull wanted deliveries).1 = .ok bytes →
    bytes.length = wanted ∧
      beforeEnd deliveries = bytes ++ beforeEnd (readFull wanted deliveries).2 ∧
      fault (readFull wanted deliveries).2 = fault deliveries
  /-- If it does not get them, the reason is the one that no more bytes come. -/
  fails : ∀ reason, (readFull wanted deliveries).1 = .error reason → reason = fault deliveries
  /-- The chunks do not count, and neither do the interruptions. -/
  regrouped : ∀ others, beforeEnd others = beforeEnd deliveries → fault others = fault deliveries →
    (readFull wanted others).1 = (readFull wanted deliveries).1

theorem readsExactly (wanted : Nat) (deliveries : List Delivery) :
    ReadsExactly wanted deliveries := by
  have gives := readFull_fst wanted deliveries
  constructor
  · rw [gives]
    split <;> simp_all [Except.isOk, Except.toBool]
  · intro bytes got
    by_cases enough : wanted ≤ (beforeEnd deliveries).length
    · obtain ⟨left, taken, after, same⟩ := readFull_of_enough enough
      rw [taken] at got ⊢
      cases got
      rw [after]
      exact ⟨List.length_take_of_le enough, (List.take_append_drop wanted _).symm, same⟩
    · rw [gives, if_neg enough] at got
      cases got
  · intro reason failed
    rw [gives] at failed
    split at failed
    · cases failed
    · exact (Except.error.inj failed).symm
  · intro others bytes same
    rw [gives, readFull_fst, bytes, same]

/-- Three bytes in chunks of one and two, of which the second holds one byte too many. -/
example :
    readFull 3 [.interrupted, .chunk 1 [], .interrupted, .interrupted, .chunk 2 [3, 4], .endOfStream] =
      (.ok [1, 2, 3], [.chunk 4 [], .endOfStream]) :=
  rfl

/-! ## Buffers -/

namespace Reader

variable {r : Reader} {link : Link} {bytes : Bytes}

/-- Nothing can be read from a descriptor that is not valid, but reading nothing always works. -/
theorem readBytes_of_broken (held : r.link = some link) (broken : link.broken = true)
    (wanted : Nat) :
    (r.readBytes wanted).1 = if wanted = 0 then some [] else none := by
  cases wanted with
  | zero => simp [readBytes, held, Link.readExact, readFull, readLimit]
  | succ wanted =>
    by_cases bounded : readLimit ≤ wanted + 1
    · simp [readBytes, held, bounded]
    · simp [readBytes, held, bounded, Link.readExact, Link.deliveries, broken, readFull]

/-- A read of nothing works on every connection and leaves it alone. -/
theorem readBytes_zero (connected : r.isConnected = true) : r.readBytes 0 = (some [], r) := by
  obtain ⟨link, held⟩ := Option.isSome_iff_exists.mp connected
  have same : { r with link := some link } = r := by rw [← held]
  cases broken : link.broken with
  | false =>
    rw [readBytes_of_le held broken (by decide) (Nat.zero_le _), List.take_zero, List.drop_zero]
    exact congrArg (Prod.mk _) same
  | true =>
    simp only [readBytes, held, readLimit, Link.readExact, readFull, broken]
    exact congrArg (Prod.mk _) same

/-- The bytes that a read gives are what its stream gives. -/
theorem readBytes_fst (held : r.link = some link) {wanted : Nat} (bounded : wanted < readLimit) :
    (r.readBytes wanted).1 = (readFull wanted link.deliveries).1.toOption := by
  have stream : (link.readExact wanted).1 = (readFull wanted link.deliveries).1 := rfl
  rw [← stream]
  simp only [readBytes, held, if_neg (Nat.not_le.mpr bounded)]
  rcases link.readExact wanted with ⟨(_ | e | _) | bytes, after⟩ <;> rfl

/-- The bytes that a read gives have gone from the connection. -/
theorem pending_of_readBytes {wanted : Nat} (got : (r.readBytes wanted).1 = some bytes) :
    r.pending = bytes ++ (r.readBytes wanted).2.pending := by
  cases held : r.link with
  | none => simp [readBytes, held] at got
  | some link =>
    cases broken : link.broken with
    | true =>
      rw [readBytes_of_broken held broken] at got
      split at got
      · next nothing =>
        subst nothing
        cases got
        rw [readBytes_zero (by simp [isConnected, held])]
        rfl
      · cases got
    | false =>
      have bounded := lt_readLimit_of_readBytes got
      rcases Nat.lt_or_ge link.inbound.length wanted with short | enough
      · obtain ⟨halted, failed⟩ := readBytes_of_lt held broken bounded short
        rw [failed] at got
        cases got
      · rw [readBytes_of_le held broken bounded enough] at got ⊢
        cases got
        simp [pending, held]

theorem read_eq (r : Reader) (buffer : Bytes) :
    r.read buffer =
      ((r.readBytes buffer.length).1.isSome, (r.readBytes buffer.length).1.getD buffer,
        (r.readBytes buffer.length).2) := by
  unfold read
  rcases r.readBytes buffer.length with ⟨_ | bytes, after⟩ <;> rfl

/-- What a read into a buffer comes to. No buffer is longer than some memory. -/
structure FillsBuffer (r : Reader) (buffer : Bytes) : Prop where
  /-- The bytes that the stream gives fill the buffer, or the buffer is left as it is. -/
  fills : ∀ link, r.link = some link → buffer.length < readLimit →
    (r.read buffer).1 = (readFull buffer.length link.deliveries).1.isOk ∧
      (r.read buffer).2.1 = (readFull buffer.length link.deliveries).1.toOption.getD buffer
  /-- The bytes in a buffer that was filled have gone from the connection, and no others have. -/
  takes : (r.read buffer).1 = true →
    r.pending = (r.read buffer).2.1 ++ (r.read buffer).2.2.pending
  /-- No failure touches the buffer. -/
  fails : (r.read buffer).1 = false → (r.read buffer).2.1 = buffer
  /-- Without a connection every read fails. -/
  unconnected : r.link = none → r.read buffer = (false, buffer, r)
  /-- A read of nothing works on every connection and leaves it alone. -/
  empty : r.isConnected = true → r.read [] = (true, [], r)

theorem fillsBuffer (r : Reader) (buffer : Bytes) : r.FillsBuffer buffer := by
  constructor
  · intro link held bounded
    rw [read_eq, readBytes_fst held bounded]
    cases (readFull buffer.length link.deliveries).1 <;> exact ⟨rfl, rfl⟩
  · intro filled
    rw [read_eq] at filled ⊢
    obtain ⟨bytes, got⟩ := Option.isSome_iff_exists.mp filled
    dsimp only
    rw [got, Option.getD_some]
    exact pending_of_readBytes got
  · intro failed
    rw [read_eq] at failed ⊢
    rw [Option.isSome_eq_false_iff, Option.isNone_iff_eq_none] at failed
    dsimp only
    rw [failed, Option.getD_none]
  · intro none
    simp [read, readBytes, none]
  · intro connected
    rw [read_eq, List.length_nil, readBytes_zero connected]
    rfl

/-- However a source divides its bytes into chunks, and wherever it interrupts: a read for so many
bytes gets exactly the next ones if they come before the stream ends or breaks, and fails for that
reason if they do not. Over a connection they are put into the buffer of the caller, which no failure
touches; without a connection every read fails, and a read of nothing leaves a connection alone. -/
theorem reads_exactly (wanted : Nat) (deliveries : List Delivery) (r : Reader) (buffer : Bytes) :
    ReadsExactly wanted deliveries ∧ r.FillsBuffer buffer :=
  ⟨readsExactly wanted deliveries, r.fillsBuffer buffer⟩

end Reader

end SensorClient
