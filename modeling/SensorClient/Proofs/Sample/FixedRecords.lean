import SensorClient.Proofs.Sample.Reading

/-!
# Draining records of one size

Over a sound connection a read takes the bytes it asked for or, if there are too few, every byte
that is there. A drain that decodes records of one size therefore hands on the whole records that
are there, in order, and leaves nothing: what is there beyond them is lost.

## Main definitions

* `wholeRecords size bytes`: the records of one size that begin a byte string
* `Decoder.recording`: keeps the records of one size

## Main results

* `Link.readExact_of_le`, `Link.readExact_of_lt`: a read with enough bytes, and one with too few
* `Decoder.drain_fixed`, `Decoder.drain_fixed_even`: what a drain hands on and what it leaves
* `flatten_wholeRecords_eq_iff`: whole records make up the bytes exactly if they come out even
-/

namespace SensorClient

/-! ## Whole records -/

/-- The records of one size that begin a byte string, as many as are whole. -/
def wholeRecords (size : Nat) (bytes : Bytes) : List Bytes :=
  Bytes.cut size (bytes.length / size) bytes

@[simp] theorem wholeRecords_nil (size : Nat) : wholeRecords size [] = [] := by
  simp [wholeRecords, Bytes.cut]

theorem wholeRecords_of_lt {size : Nat} {bytes : Bytes} (short : bytes.length < size) :
    wholeRecords size bytes = [] := by
  rw [wholeRecords, Nat.div_eq_of_lt short, Bytes.cut]

theorem wholeRecords_of_le {size : Nat} {bytes : Bytes} (positive : 0 < size)
    (enough : size ≤ bytes.length) :
    wholeRecords size bytes = bytes.take size :: wholeRecords size (bytes.drop size) := by
  rw [wholeRecords, wholeRecords, List.length_drop, Nat.div_eq_sub_div positive enough, Bytes.cut]

/-- Records cut from bytes that come out even, and from what follows them. -/
theorem cut_append {size count : Nat} {bytes : Bytes} (even : bytes.length = size * count)
    (more : Nat) (later : Bytes) :
    Bytes.cut size (count + more) (bytes ++ later) =
      Bytes.cut size count bytes ++ Bytes.cut size more later := by
  induction count generalizing bytes with
  | zero =>
    rw [Nat.mul_zero, List.length_eq_zero_iff] at even
    simp [even, Bytes.cut]
  | succ count ih =>
    rw [Nat.mul_succ] at even
    have enough : size ≤ bytes.length := by omega
    have rest : (bytes.drop size).length = size * count := by
      rw [List.length_drop]
      omega
    rw [Nat.succ_add, Bytes.cut, Bytes.cut, List.take_append_of_le_length enough,
      List.drop_append_of_le_length enough, ih rest, List.cons_append]

/-- Bytes that come out even and what follows them give the whole records of both. -/
theorem wholeRecords_append {size : Nat} {bytes : Bytes} (positive : 0 < size)
    (even : size ∣ bytes.length) (later : Bytes) :
    wholeRecords size (bytes ++ later) = wholeRecords size bytes ++ wholeRecords size later := by
  obtain ⟨count, even⟩ := even
  rw [wholeRecords, List.length_append, even, Nat.mul_add_div positive, cut_append even,
    wholeRecords, even, Nat.mul_div_cancel_left count positive, wholeRecords]

/-- Strings that come out even give the whole records of all of them together. -/
theorem wholeRecords_flatten {size : Nat} {strings : List Bytes} (positive : 0 < size)
    (even : ∀ bytes ∈ strings, size ∣ bytes.length) :
    wholeRecords size strings.flatten = strings.flatMap (wholeRecords size) := by
  induction strings with
  | nil => simp
  | cons bytes strings ih =>
    rw [List.forall_mem_cons] at even
    rw [List.flatten_cons, List.flatMap_cons, wholeRecords_append positive even.1, ih even.2]

theorem flatten_cut (size count : Nat) (bytes : Bytes) :
    (Bytes.cut size count bytes).flatten = bytes.take (size * count) := by
  induction count generalizing bytes with
  | zero => simp [Bytes.cut]
  | succ count ih =>
    rw [Bytes.cut, List.flatten_cons, ih, Nat.mul_succ, Nat.add_comm, List.take_add]

/-- The whole records are the bytes up to the last multiple of the size. -/
theorem flatten_wholeRecords (size : Nat) (bytes : Bytes) :
    (wholeRecords size bytes).flatten = bytes.take (size * (bytes.length / size)) :=
  flatten_cut size _ bytes

/-- The whole records make up the bytes exactly if they come out even. -/
theorem flatten_wholeRecords_eq_iff (size : Nat) (bytes : Bytes) :
    (wholeRecords size bytes).flatten = bytes ↔ size ∣ bytes.length := by
  rw [flatten_wholeRecords]
  constructor
  · intro all
    have reached : bytes.length ≤ size * (bytes.length / size) := by
      have := congrArg List.length all
      rw [List.length_take] at this
      omega
    exact ⟨_, Nat.le_antisymm reached (Nat.mul_div_le bytes.length size)⟩
  · intro even
    rw [Nat.mul_div_cancel' even, List.take_length]

theorem length_flatten_wholeRecords_le (size : Nat) (bytes : Bytes) :
    (wholeRecords size bytes).flatten.length ≤ bytes.length := by
  rw [flatten_wholeRecords, List.length_take]
  exact Nat.min_le_right _ _

theorem length_flatten_flatMap_wholeRecords_le (size : Nat) (strings : List Bytes) :
    (strings.flatMap (wholeRecords size)).flatten.length ≤ strings.flatten.length := by
  induction strings with
  | nil => exact Nat.le_refl 0
  | cons bytes strings ih =>
    rw [List.flatMap_cons, List.flatten_append, List.flatten_cons, List.length_append,
      List.length_append]
    exact Nat.add_le_add (length_flatten_wholeRecords_le size bytes) ih

/-- Whole records make up the bytes of several strings exactly if each of them comes out even. -/
theorem flatten_flatMap_wholeRecords_eq_iff (size : Nat) (strings : List Bytes) :
    (strings.flatMap (wholeRecords size)).flatten = strings.flatten ↔
      ∀ bytes ∈ strings, size ∣ bytes.length := by
  induction strings with
  | nil => simp
  | cons bytes strings ih =>
    rw [List.flatMap_cons, List.flatten_append, List.flatten_cons, List.forall_mem_cons, ← ih,
      ← flatten_wholeRecords_eq_iff]
    constructor
    · intro all
      -- Neither part can be longer than what it is made of, so the lengths agree part by part.
      have first := length_flatten_wholeRecords_le size bytes
      have rest := length_flatten_flatMap_wholeRecords_le size strings
      have lengths := congrArg List.length all
      rw [List.length_append, List.length_append] at lengths
      exact List.append_inj all (by omega)
    · rintro ⟨first, rest⟩
      rw [first, rest]

theorem length_of_mem_cut {size count : Nat} {bytes record : Bytes}
    (enough : size * count ≤ bytes.length) (mem : record ∈ Bytes.cut size count bytes) :
    record.length = size := by
  induction count generalizing bytes with
  | zero => cases mem
  | succ count ih =>
    rw [Nat.mul_succ] at enough
    rcases List.mem_cons.mp mem with rfl | mem
    · rw [List.length_take]
      omega
    · refine ih ?_ mem
      rw [List.length_drop]
      omega

/-- A whole record has the size of a record. -/
theorem length_of_mem_wholeRecords {size : Nat} {bytes record : Bytes}
    (mem : record ∈ wholeRecords size bytes) : record.length = size :=
  length_of_mem_cut (Nat.mul_div_le bytes.length size) mem

/-- To hand records on to a list is to keep them. -/
theorem foldl_keep (records kept : List Bytes) :
    records.foldl (fun kept record => kept ++ [record]) kept = kept ++ records := by
  rw [List.foldl_append_eq_append, ← List.flatMap_def, List.flatMap_singleton']

/-! ## Reads -/

theorem pending_append (deliveries more : List Delivery) :
    Delivery.pending (deliveries ++ more) =
      Delivery.pending deliveries ++ Delivery.pending more := by
  simp [Delivery.pending]

/-- A read with enough bytes takes as many as it asks for, whatever is delivered after them. -/
theorem readFull_of_le {wanted : Nat} {bytes : Bytes} (enough : wanted ≤ bytes.length)
    (later : List Delivery) :
    ∃ left, readFull wanted (Delivery.ofBytes bytes ++ later) = (.ok (bytes.take wanted), left) ∧
      Delivery.pending left = bytes.drop wanted ++ Delivery.pending later := by
  cases wanted with
  | zero => exact ⟨_, by rw [readFull, List.take_zero], by simp [pending_append]⟩
  | succ wanted =>
    cases bytes with
    | nil => simp at enough
    | cons b rest =>
      rw [List.length_cons] at enough
      -- The first delivery holds every byte that is there, so the read is over within it.
      by_cases all : rest.length ≤ wanted
      · have exact : wanted = rest.length := by omega
        subst exact
        exact ⟨later, by simp [Delivery.ofBytes, readFull, Except.map], by simp⟩
      · refine ⟨Delivery.ofBytes (rest.drop wanted) ++ later, ?_, ?_⟩
        · simp only [Delivery.ofBytes, List.singleton_append, readFull, all, if_false,
            List.take_succ_cons]
        · rw [pending_append, Delivery.pending_ofBytes, List.drop_succ_cons]

/-- A read with too few bytes takes them all and goes on with what comes after them. -/
theorem readFull_of_missing {wanted : Nat} {bytes : Bytes} (short : bytes.length < wanted)
    (later : List Delivery) :
    ∃ missing, readFull wanted (Delivery.ofBytes bytes ++ later) =
      ((readFull (missing + 1) later).1.map (bytes ++ ·), (readFull (missing + 1) later).2) := by
  obtain ⟨missing, rfl⟩ := Nat.exists_eq_add_of_lt short
  refine ⟨missing, ?_⟩
  cases bytes with
  | nil =>
    simp only [Delivery.ofBytes, List.nil_append, List.length_nil, Nat.zero_add]
    rcases readFull (missing + 1) later with ⟨fault | bytes, left⟩ <;> rfl
  | cons b rest =>
    have few : rest.length ≤ (b :: rest).length + missing := by
      rw [List.length_cons]
      omega
    have lacks : (b :: rest).length + missing - rest.length = missing + 1 := by
      rw [List.length_cons]
      omega
    simp only [Delivery.ofBytes, List.singleton_append, readFull, few, if_true, lacks]

/-- A read with too few bytes takes them all before it fails on what comes after them. -/
theorem readFull_of_lt {wanted : Nat} {bytes : Bytes} {later : List Delivery}
    (barren : ∀ missing, ∃ fault left,
      readFull (missing + 1) later = (.error fault, left) ∧ Delivery.pending left = [])
    (short : bytes.length < wanted) :
    ∃ fault left, readFull wanted (Delivery.ofBytes bytes ++ later) = (.error fault, left) ∧
      Delivery.pending left = [] := by
  obtain ⟨missing, goesOn⟩ := readFull_of_missing short later
  obtain ⟨fault, left, failed, nothing⟩ := barren missing
  refine ⟨fault, left, ?_, nothing⟩
  rw [goesOn, failed]
  rfl

namespace Link

/-- What the next reads meet after the bytes that have arrived. -/
def ending (link : Link) : List Delivery :=
  if !link.sending then [.endOfStream]
  else if link.readTimeout.isSome then [.failed .wouldBlock]
  else []

theorem deliveries_of_sound {link : Link} (sound : link.broken = false) :
    link.deliveries = Delivery.ofBytes link.inbound ++ link.ending := by
  simp [deliveries, ending, sound]

theorem pending_ending (link : Link) : Delivery.pending link.ending = [] := by
  unfold ending
  repeat' split
  all_goals rfl

theorem ending_barren (link : Link) (missing : Nat) :
    ∃ fault left, readFull (missing + 1) link.ending = (.error fault, left) ∧
      Delivery.pending left = [] := by
  unfold ending
  repeat' split
  all_goals exact ⟨_, _, rfl, rfl⟩

/-- A read with enough bytes takes as many as it asks for. -/
theorem readExact_of_le {link : Link} {wanted : Nat} (sound : link.broken = false)
    (enough : wanted ≤ link.inbound.length) :
    link.readExact wanted =
      (.ok (link.inbound.take wanted), { link with inbound := link.inbound.drop wanted }) := by
  obtain ⟨left, taken, rest⟩ := readFull_of_le enough link.ending
  rw [pending_ending, List.append_nil] at rest
  simp [readExact, deliveries_of_sound sound, taken, rest, sound]

/-- A read with too few bytes fails, and the bytes that were there are gone. -/
theorem readExact_of_lt {link : Link} {wanted : Nat} (sound : link.broken = false)
    (short : link.inbound.length < wanted) :
    ∃ fault, link.readExact wanted = (.error fault, { link with inbound := [] }) := by
  obtain ⟨fault, left, failed, nothing⟩ := readFull_of_lt link.ending_barren short
  exact ⟨fault, by simp [readExact, deliveries_of_sound sound, failed, nothing, sound]⟩

end Link

namespace Reader

/-- The bytes that are there. -/
def pending (r : Reader) : Bytes := r.link.elim [] Link.inbound

theorem bytesAvailable_of_sound {r : Reader} (link : Link) (held : r.link = some link)
    (sound : link.broken = false) : r.bytesAvailable = link.inbound.length := by
  simp [bytesAvailable, held, Link.available, sound, Except.toOption]

theorem readBytes_of_le {r : Reader} {link : Link} {wanted : Nat} (held : r.link = some link)
    (sound : link.broken = false) (bounded : wanted < readLimit)
    (enough : wanted ≤ link.inbound.length) :
    r.readBytes wanted =
      (some (link.inbound.take wanted),
        { r with link := some { link with inbound := link.inbound.drop wanted } }) := by
  simp [readBytes, held, Nat.not_le.mpr bounded, Link.readExact_of_le sound enough]

theorem readBytes_of_lt {r : Reader} {link : Link} {wanted : Nat} (held : r.link = some link)
    (sound : link.broken = false) (bounded : wanted < readLimit)
    (short : link.inbound.length < wanted) :
    ∃ halted, r.readBytes wanted =
      (none, { r with link := some { link with inbound := [] }, halted }) := by
  obtain ⟨fault, failed⟩ := Link.readExact_of_lt sound short
  cases fault <;>
    exact ⟨_, by simp [readBytes, held, Nat.not_le.mpr bounded, failed]; rfl⟩

/-- A read that no memory can hold takes nothing and never comes back. -/
theorem readBytes_of_oversized {r : Reader} {link : Link} {wanted : Nat} (held : r.link = some link)
    (oversized : readLimit ≤ wanted) :
    r.readBytes wanted = (none, { r with halted := r.halted <|> some .oversized }) := by
  simp [readBytes, held, oversized]

end Reader

/-! ## Drains -/

namespace Decoder

variable {σ : Type} (interface : String) {size : Nat} (sink : σ → Bytes → σ) (state : σ)
  {r : Reader} {link : Link}

theorem run_fixed_of_le (held : r.link = some link) (sound : link.broken = false)
    (bounded : size < Reader.readLimit) (enough : size ≤ link.inbound.length) :
    ((fixed interface size sink).pass state).run r =
      ((true, sink state (link.inbound.take size)),
        { r with link := some { link with inbound := link.inbound.drop size } }) := by
  simp [fixed, Pass.run, Reader.readBytes_of_le held sound bounded enough]

theorem run_fixed_of_lt (held : r.link = some link) (sound : link.broken = false)
    (bounded : size < Reader.readLimit) (short : link.inbound.length < size) :
    ∃ halted, ((fixed interface size sink).pass state).run r =
      ((false, state), { r with link := some { link with inbound := [] }, halted }) := by
  obtain ⟨halted, failed⟩ := Reader.readBytes_of_lt held sound bounded short
  exact ⟨halted, by simp [fixed, Pass.run, failed]⟩

/-- With too few bytes for a record the only pass fails, and the bytes it took are lost. -/
theorem drain_fixed_of_lt (held : r.link = some link) (sound : link.broken = false)
    (bounded : size < Reader.readLimit) (short : link.inbound.length < size) :
    ∃ halted, (fixed interface size sink).drain state r =
      (1, state, { r with link := some { link with inbound := [] }, halted }) := by
  obtain ⟨halted, failed⟩ := run_fixed_of_lt interface sink state held
    sound bounded short
  exact ⟨halted, by simp [drain_eq, failed]⟩

/-- With the bytes of one record that record is taken, and nothing is left. -/
theorem drain_fixed_of_eq (held : r.link = some link) (sound : link.broken = false)
    (bounded : size < Reader.readLimit) (one : link.inbound.length = size) :
    (fixed interface size sink).drain state r =
      (1, sink state link.inbound, { r with link := some { link with inbound := [] } }) := by
  have taken := run_fixed_of_le interface sink state held sound bounded
    (Nat.le_of_eq one.symm)
  rw [List.take_of_length_le (Nat.le_of_eq one), List.drop_of_length_le (Nat.le_of_eq one)] at taken
  have left : Reader.bytesAvailable { r with link := some { link with inbound := [] } } = 0 :=
    Reader.bytesAvailable_of_sound { link with inbound := [] } rfl sound
  simp [drain_eq, taken, left]

/-- With more bytes than those of a record the first record is taken, and the drain goes on. -/
theorem drain_fixed_of_gt (held : r.link = some link) (sound : link.broken = false)
    (bounded : size < Reader.readLimit) (positive : 0 < size) (more : size < link.inbound.length) :
    (fixed interface size sink).drain state r =
      let later := (fixed interface size sink).drain (sink state (link.inbound.take size))
        { r with link := some { link with inbound := link.inbound.drop size } }
      (later.1 + 1, later.2) := by
  have taken := run_fixed_of_le interface sink state held sound bounded
    (Nat.le_of_lt more)
  have left : Reader.bytesAvailable
      { r with link := some { link with inbound := link.inbound.drop size } } =
      link.inbound.length - size := by
    rw [Reader.bytesAvailable_of_sound { link with inbound := link.inbound.drop size } rfl sound,
      List.length_drop]
  have fewer : 0 < link.inbound.length - size ∧
      link.inbound.length - size < link.inbound.length := by omega
  rw [drain_eq]
  simp only [taken, left, Reader.bytesAvailable_of_sound link held sound, fewer, and_self, if_true]

/-- The number of passes over bytes of which a record has been taken. -/
theorem passes_succ {n size : Nat} (positive : 0 < size) (more : size < n) :
    max 1 ((n - size + size - 1) / size) + 1 = max 1 ((n + size - 1) / size) := by
  have one : 1 ≤ (n - 1) / size := (Nat.one_le_div_iff positive).mpr (by omega)
  have next : (n + size - 1) / size = (n - 1) / size + 1 := by
    rw [← Nat.add_div_right _ positive]
    congr 1
    omega
  have rest : n - size + size - 1 = n - 1 := by omega
  rw [rest, next]
  omega

/-- A drain hands on the whole records that are there, in order, and leaves nothing. A pass is
made for each record, and one more if the bytes do not come out even. If they do, it comes back. -/
theorem drain_fixed_even (positive : 0 < size) (bounded : size < Reader.readLimit)
    (held : r.link = some link) (sound : link.broken = false) :
    ∃ halted, (link.inbound ≠ [] → size ∣ link.inbound.length → halted = r.halted) ∧
      (fixed interface size sink).drain state r =
        (max 1 ((link.inbound.length + size - 1) / size),
          (wholeRecords size link.inbound).foldl sink state,
          { r with link := some { link with inbound := [] }, halted }) := by
  -- A record that is taken leaves fewer bytes, and the drain goes on with those.
  induction bytes : link.inbound.length using Nat.strongRecOn generalizing state r link with
  | ind n ih =>
    subst bytes
    -- After the first pass: it failed, it left nothing, or it left fewer bytes than it found.
    rcases Nat.lt_trichotomy link.inbound.length size with short | one | more
    · obtain ⟨halted, drained⟩ := drain_fixed_of_lt interface sink state held sound bounded short
      have once : (link.inbound.length + size - 1) / size ≤ 1 := by
        rw [Nat.div_le_iff_le_mul_add_pred positive]
        omega
      refine ⟨halted, fun pending even => ?_, ?_⟩
      · have enough := Nat.le_of_dvd (List.length_pos_iff.mpr pending) even
        exact absurd short (Nat.not_lt.mpr enough)
      · rw [drained, wholeRecords_of_lt short, Nat.max_eq_left once]
        rfl
    · have once : (link.inbound.length + size - 1) / size ≤ 1 := by
        rw [one, Nat.div_le_iff_le_mul_add_pred positive]
        omega
      refine ⟨r.halted, fun _ _ => rfl, ?_⟩
      rw [drain_fixed_of_eq interface sink state held sound bounded one,
        wholeRecords_of_le positive (Nat.le_of_eq one.symm),
        List.take_of_length_le (Nat.le_of_eq one), List.drop_of_length_le (Nat.le_of_eq one),
        wholeRecords_nil, Nat.max_eq_left once]
      rfl
    · have left : (link.inbound.drop size).length = link.inbound.length - size :=
        List.length_drop
      have fewer : (link.inbound.drop size).length < link.inbound.length := by omega
      obtain ⟨halted, back, drained⟩ := ih _ fewer (sink state (link.inbound.take size))
        (r := { r with link := some { link with inbound := link.inbound.drop size } }) rfl
        (by exact sound) rfl
      refine ⟨halted, fun _ even => ?_, ?_⟩
      · refine back (by simpa using more) ?_
        rw [left]
        exact Nat.dvd_sub even (Nat.dvd_refl size)
      · rw [drain_fixed_of_gt interface sink state held sound bounded positive more, drained,
          wholeRecords_of_le positive (Nat.le_of_lt more), List.foldl_cons, List.length_drop]
        simp only [passes_succ positive more]

theorem drain_fixed (positive : 0 < size) (bounded : size < Reader.readLimit)
    (held : r.link = some link) (sound : link.broken = false) :
    ∃ halted, (fixed interface size sink).drain state r =
      (max 1 ((link.inbound.length + size - 1) / size),
        (wholeRecords size link.inbound).foldl sink state,
        { r with link := some { link with inbound := [] }, halted }) := by
  obtain ⟨halted, -, drained⟩ :=
    drain_fixed_even interface sink state positive bounded held sound
  exact ⟨halted, drained⟩

/-- A drain of whole records comes back. -/
theorem halted_drain_fixed (positive : 0 < size) (bounded : size < Reader.readLimit)
    (held : r.link = some link) (sound : link.broken = false) (pending : link.inbound ≠ [])
    (even : size ∣ link.inbound.length) :
    ((fixed interface size sink).drain state r).2.2.halted = r.halted := by
  obtain ⟨halted, back, drained⟩ :=
    drain_fixed_even interface sink state positive bounded held sound
  rw [drained]
  exact back pending even

/-! ## Keeping the records -/

/-- Records of one size, each kept as it comes. -/
def recording (interface : String) (size : Nat) : Decoder (List Bytes) :=
  fixed interface size fun kept record => kept ++ [record]

end Decoder

end SensorClient
