import SensorClient.Proofs.Sample.Batches
import SensorClient.Proofs.Sample.Draining

/-!
# Reads that come back

A read of more bytes than are there waits for the others. It comes back without them if the daemon
has stopped sending or the wait is limited, and otherwise it does not. A read that no memory can hold
does not come back either. So a pass, and a drain, comes back exactly if each of its reads is
answered. Where nothing ends a wait every read has to find its bytes, and that is so exactly if whole
units are there: records, or batches with their number in front.

## Main definitions

* `Reader.endless`: reads of more than is there do not come back
* `Reader.Answers`, `Reader.Offers`: a read of so many bytes comes back, or finds them
* `Pass.Answered`, `Decoder.Answered`: every read of a pass and of a drain comes back
* `Pass.Prompt`, `Decoder.Prompt`: every read of a pass and of a drain finds its bytes
* `Decoder.Modest`: a decoder asks for no more bytes at a time than any memory can hold, and does
  not break down
* `Decoder.MadeUp`: bytes that are made up of whole units, perhaps with one behind them that is
  given up

## Main results

* `Pass.returned_run_iff`, `Decoder.returned_drain_iff`: a pass and a drain come back exactly if
  every read is answered
* `Decoder.Modest.answered`: where something ends each wait, a modest drain comes back
* `Decoder.prompt_iff_answered`: where nothing does, the reads that are answered find their bytes
* `Decoder.prompt_fixed_iff`, `Decoder.prompt_batch_iff`: the bytes for which all reads do
-/

namespace SensorClient

/-! ## Reads -/

/-- Where the stream ends, or waits do, a read comes back. -/
theorem readFull_ne_waiting {wanted : Nat} {deliveries : List Delivery}
    (ends : ∃ delivery ∈ deliveries, delivery = .endOfStream ∨ ∃ e, delivery = .failed e) :
    (readFull wanted deliveries).1 ≠ .error .waiting := by
  fun_induction readFull wanted deliveries with
  | case2 => simp at ends
  | case3 wanted b rest later few result left found ih =>
    rw [found] at ih
    have returns := ih (by simpa using ends)
    cases result with
    | ok bytes => simp [Except.map]
    | error fault => simpa [Except.map] using returns
  | case5 wanted later ih => exact ih (by simpa using ends)
  | case1 | case4 | case6 | case7 => simp

namespace Link

/-- Whether a read of more than is there does not come back: there is no limit to the wait, and the
daemon may still send. -/
def endless (link : Link) : Bool := link.sending && link.readTimeout.isNone

theorem readExact_ne_waiting {link : Link} (limited : link.endless = false) (wanted : Nat) :
    (link.readExact wanted).1 ≠ .error .waiting := by
  -- A broken descriptor, the end of the stream and the limit of the wait each end the deliveries.
  refine readFull_ne_waiting ?_
  unfold deliveries
  cases broken : link.broken with
  | true => simp
  | false =>
    rw [endless, Bool.and_eq_false_iff] at limited
    rcases limited with cutOff | limited
    · simp [cutOff]
    · have timed : link.readTimeout.isSome = true := by
        simpa [Option.isSome_iff_ne_none, Option.isNone_iff_eq_none] using limited
      cases sending : link.sending <;> simp [timed]

theorem readExact_of_missing {link : Link} {wanted : Nat} (sound : link.broken = false)
    (endless : link.endless = true) (missing : link.inbound.length < wanted) :
    (link.readExact wanted).1 = .error .waiting := by
  obtain ⟨sending, unlimited⟩ := Bool.and_eq_true_iff.mp endless
  rw [Option.isNone_iff_eq_none] at unlimited
  have nothing : link.ending = [] := by simp [ending, sending, unlimited]
  obtain ⟨more, goesOn⟩ := readFull_of_missing missing []
  rw [readExact, deliveries_of_sound sound, nothing, goesOn]
  rfl

@[simp] theorem endless_bare (link : Link) : link.bare.endless = link.endless := rfl

end Link

namespace Reader

variable {r r' : Reader} {wanted : Nat}

/-- Whether a read of more than is there does not come back. -/
def endless (r : Reader) : Bool := r.link.any Link.endless

/-- A read of so many bytes comes back: some memory can hold them, and they are there unless
something ends the wait for them. -/
def Answers (r : Reader) (wanted : Nat) : Prop :=
  wanted < readLimit ∧ (r.endless = true → wanted ≤ r.bytesAvailable)

/-- So many bytes are there, and some memory can hold them. -/
def Offers (r : Reader) (wanted : Nat) : Prop := wanted ≤ r.bytesAvailable ∧ wanted < readLimit

theorem endless_bare (r : Reader) : r.bare.endless = r.endless := by
  cases held : r.link <;> simp [endless, bare, held]

theorem endless_of_bare (same : r'.bare = r.bare) : r'.endless = r.endless := by
  rw [← endless_bare, same, endless_bare]

theorem sound_of_bare (sound : r.Sound) (same : r'.bare = r.bare) : r'.Sound := by
  rw [← sound_bare, same, sound_bare]
  exact sound

theorem offers_iff_answers (endless : r.endless = true) : r.Offers wanted ↔ r.Answers wanted := by
  rw [Offers, Answers, imp_iff_right endless, and_comm]

theorem halted_readBytes (limited : r.endless = false)
    (bounded : wanted < readLimit) : (r.readBytes wanted).2.halted = r.halted := by
  unfold readBytes
  split
  · rfl
  · next link held =>
    have returns := link.readExact_ne_waiting (by simpa [endless, held] using limited) wanted
    rw [if_neg (Nat.not_le.mpr bounded)]
    split
    · rfl
    · next found => exact absurd (congrArg Prod.fst found) returns
    · rfl

/-- A read from a sound connection comes back exactly if it is answered. -/
theorem returned_readBytes_iff (sound : r.Sound) (returned : r.halted = none) (wanted : Nat) :
    (r.readBytes wanted).2.halted = none ↔ r.Answers wanted := by
  obtain ⟨link, held, valid⟩ := sound
  rw [Answers, bytesAvailable_of_sound link held valid]
  -- Whether memory suffices is looked at first, before the connection is read from.
  rcases Nat.lt_or_ge wanted readLimit with bounded | oversized
  · cases endless : r.endless with
    | false =>
      rw [halted_readBytes endless bounded]
      exact iff_of_true returned ⟨bounded, nofun⟩
    | true =>
      rcases Nat.lt_or_ge link.inbound.length wanted with short | enough
      · have patient : link.endless = true := by simpa [Reader.endless, held] using endless
        have waits := Link.readExact_of_missing valid patient short
        generalize found : link.readExact wanted = result at waits
        obtain ⟨outcome, after⟩ := result
        cases waits
        refine iff_of_false ?_ fun answered => Nat.not_le.mpr short (answered.2 rfl)
        simp [readBytes, held, Nat.not_le.mpr bounded, found, returned]
      · rw [readBytes_of_le held valid bounded enough]
        exact iff_of_true returned ⟨bounded, fun _ => enough⟩
  · rw [readBytes_of_oversized held oversized]
    exact iff_of_false (by simp [returned]) fun answered => Nat.not_le.mpr answered.1 oversized

/-- Where memory suffices, a read can only wait. -/
theorem readBytes_ne_oversized (bounded : wanted < readLimit)
    (before : r.halted ≠ some .oversized) : (r.readBytes wanted).2.halted ≠ some .oversized := by
  unfold readBytes
  split
  · exact before
  · rw [if_neg (Nat.not_le.mpr bounded)]
    split
    · exact before
    · cases halted : r.halted with
      | none => simp
      | some halt =>
        rw [halted] at before
        simpa using before
    · exact before

end Reader

/-! ## Passes -/

namespace Pass

variable {α : Type} {pass : Pass α} {r : Reader}

/-- Every read of a pass finds its bytes, and the pass does not break down. -/
def Prompt : Pass α → Reader → Prop
  | done _, _ => True
  | take wanted next, r =>
    r.Offers wanted ∧ (next (r.readBytes wanted).1).Prompt (r.readBytes wanted).2
  | count next, r => (next r.bytesAvailable).Prompt r
  | arrival bytes next, r => next.Prompt (r.onLink fun link => (link.feed bytes).2)
  | breakdown _, _ => False

/-- Every read of a pass comes back, and the pass does not break down. -/
def Answered : Pass α → Reader → Prop
  | done _, _ => True
  | take wanted next, r =>
    r.Answers wanted ∧ (next (r.readBytes wanted).1).Answered (r.readBytes wanted).2
  | count next, r => (next r.bytesAvailable).Answered r
  | arrival bytes next, r => next.Answered (r.onLink fun link => (link.feed bytes).2)
  | breakdown _, _ => False

/-- A pass asks for no more bytes at a time than any memory can hold, and does not break down,
whatever it is answered. A read gives as many bytes as it is asked for. -/
def Modest : Pass α → Prop
  | done _ => True
  | take wanted next =>
    wanted < Reader.readLimit ∧
      ∀ bytes?, (∀ bytes, bytes? = some bytes → bytes.length = wanted) → (next bytes?).Modest
  | count next => ∀ n, (next n).Modest
  | arrival _ next => next.Modest
  | breakdown _ => False

/-- A pass comes back exactly if every read is answered. -/
theorem returned_run_iff (sound : r.Sound) (returned : r.halted = none) :
    (pass.run r).2.halted = none ↔ pass.Answered r := by
  induction pass generalizing r with
  | done a => simp [run, Answered, returned]
  | take wanted next ih =>
    have after := Reader.sound_of_bare sound (r.bare_readBytes wanted)
    rw [run, Answered, ← Reader.returned_readBytes_iff sound returned]
    constructor
    · -- What comes after the read can come back only if the read has.
      intro back
      have first := returned_of_run back
      exact ⟨first, (ih _ after first).mp back⟩
    · rintro ⟨first, later⟩
      exact (ih _ after first).mpr later
  | count next ih => exact ih _ sound returned
  | arrival bytes next ih => exact ih (Reader.sound_of_bare sound (r.bare_feed bytes)) returned
  | breakdown a => simp [run, Answered, returned]

/-- Where nothing ends a wait, the reads that are answered find their bytes. -/
theorem prompt_iff_answered (endless : r.endless = true) : pass.Prompt r ↔ pass.Answered r := by
  induction pass generalizing r with
  | done a => exact Iff.rfl
  | take wanted next ih =>
    have after := (Reader.endless_of_bare (r.bare_readBytes wanted)).trans endless
    exact and_congr (Reader.offers_iff_answers endless) (ih _ after)
  | count next ih => exact ih _ endless
  | arrival bytes next ih =>
    exact ih ((Reader.endless_of_bare (r.bare_feed bytes)).trans endless)
  | breakdown a => exact Iff.rfl

/-- Where something ends each wait, every read of a modest pass is answered. -/
theorem Modest.answered (modest : pass.Modest) (limited : r.endless = false) :
    pass.Answered r := by
  induction pass generalizing r with
  | done a => trivial
  | take wanted next ih =>
    -- What ends this wait is there for the next one too.
    have later := (Reader.endless_of_bare (r.bare_readBytes wanted)).trans limited
    have asked := modest.2 (r.readBytes wanted).1 fun _ => Reader.length_readBytes
    exact ⟨⟨modest.1, by simp [limited]⟩, ih _ asked later⟩
  | count next ih => exact ih _ (modest _) limited
  | arrival bytes next ih =>
    exact ih modest ((Reader.endless_of_bare (r.bare_feed bytes)).trans limited)
  | breakdown a => exact modest.elim

theorem run_ne_oversized (modest : pass.Modest) (before : r.halted ≠ some .oversized) :
    (pass.run r).2.halted ≠ some .oversized := by
  induction pass generalizing r with
  | done a => exact before
  | take wanted next ih =>
    have asked := modest.2 (r.readBytes wanted).1 fun _ => Reader.length_readBytes
    exact ih _ asked (Reader.readBytes_ne_oversized modest.1 before)
  | count next ih => exact ih _ (modest _) before
  | arrival bytes next ih =>
    exact ih (r := r.onLink fun link => (link.feed bytes).2) modest before
  | breakdown a => exact modest.elim

end Pass

/-! ## Drains -/

namespace Decoder

variable {σ : Type} {decoder : Decoder σ} {state : σ} {r : Reader} {link : Link}

/-- Every read of a drain finds its bytes. -/
def Prompt (decoder : Decoder σ) (state : σ) (r : Reader) : Prop :=
  ∀ n < (decoder.drain state r).1,
    (decoder.pass (decoder.after n state r).1).Prompt (decoder.after n state r).2

/-- The reads of a drain are those of its first pass, and of the rest if that was of use. -/
theorem prompt_iff :
    decoder.Prompt state r ↔
      (decoder.pass state).Prompt r ∧
        (decoder.GoesOn 0 state r →
          decoder.Prompt ((decoder.pass state).run r).1.2 ((decoder.pass state).run r).2) := by
  by_cases useful : decoder.GoesOn 0 state r
  · simp only [Prompt, drain_of_goesOn useful, useful, true_imp_iff]
    constructor
    · intro all
      exact ⟨all 0 (Nat.succ_pos _), fun n less => all (n + 1) (Nat.succ_lt_succ less)⟩
    · rintro ⟨first, later⟩ n less
      cases n with
      | zero => exact first
      | succ n => exact later n (Nat.lt_of_succ_lt_succ less)
  · simp only [Prompt, drain_of_not_goesOn useful, useful, false_imp_iff, and_true]
    constructor
    · exact fun all => all 0 Nat.one_pos
    · rintro first n less
      cases Nat.lt_one_iff.mp less
      exact first

/-- Every read of a drain comes back. -/
def Answered (decoder : Decoder σ) (state : σ) (r : Reader) : Prop :=
  ∀ n < (decoder.drain state r).1,
    (decoder.pass (decoder.after n state r).1).Answered (decoder.after n state r).2

/-- A decoder asks for no more bytes at a time than any memory can hold, and does not break down. -/
def Modest (decoder : Decoder σ) : Prop := ∀ state, (decoder.pass state).Modest

theorem bare_after (decoder : Decoder σ) (n : Nat) (state : σ) (r : Reader) :
    (decoder.after n state r).2.bare = r.bare := by
  induction n with
  | zero => rfl
  | succ n ih => rw [after_succ, Pass.bare_run, ih]

theorem returned_of_drain (returned : (decoder.drain state r).2.2.halted = none) :
    r.halted = none :=
  (returns_drain_iff decoder state r).mp returned 0 (Nat.zero_le _)

/-- A drain comes back exactly if every read is answered. -/
theorem returned_drain_iff (sound : r.Sound) (returned : r.halted = none) :
    (decoder.drain state r).2.2.halted = none ↔ decoder.Answered state r := by
  have now (n : Nat) := Reader.sound_of_bare sound (decoder.bare_after n state r)
  rw [returns_drain_iff]
  constructor
  · intro back n less
    have after := back (n + 1) less
    rw [after_succ] at after
    exact (Pass.returned_run_iff (now n) (back n (Nat.le_of_lt less))).mp after
  · intro answered n
    -- Each pass meets a reader whose reads have come back so far.
    induction n with
    | zero => exact fun _ => returned
    | succ n ih =>
      intro less
      rw [after_succ]
      exact (Pass.returned_run_iff (now n) (ih (Nat.le_of_lt less))).mpr (answered n less)

/-- Where nothing ends a wait, a drain whose reads are all answered finds all its bytes. -/
theorem prompt_iff_answered (endless : r.endless = true) :
    decoder.Prompt state r ↔ decoder.Answered state r :=
  forall₂_congr fun n _ => Pass.prompt_iff_answered <|
    (Reader.endless_of_bare (decoder.bare_after n state r)).trans endless

/-- Where something ends each wait, every read of a modest drain is answered. -/
theorem Modest.answered (modest : decoder.Modest) (state : σ) (limited : r.endless = false) :
    decoder.Answered state r := fun n _ =>
  (modest _).answered <|
    (Reader.endless_of_bare (decoder.bare_after n state r)).trans limited

theorem drain_ne_oversized (modest : decoder.Modest) (before : r.halted ≠ some .oversized) :
    (decoder.drain state r).2.2.halted ≠ some .oversized :=
  drain_induction (P := fun _ after => after.halted ≠ some .oversized)
    (fun state _ before => Pass.run_ne_oversized (modest state) before) before

/-! ### Units -/

section

variable {α : Type} {whole : α → Prop} {encode : α → Bytes} {deliver : σ → α → σ}
  {givenUp : Bytes → Prop} {unit : α} {later : Bytes}

/-- Bytes that are made up of whole units, with nothing behind them but what is given up. -/
def MadeUp (whole : α → Prop) (encode : α → Bytes) (givenUp : Bytes → Prop) (bytes : Bytes) : Prop :=
  ∃ (units : List α) (rest : Bytes), (∀ unit ∈ units, whole unit) ∧ (rest = [] ∨ givenUp rest) ∧
    bytes = units.flatMap encode ++ rest

/-- The reads of a pass find their bytes exactly if a whole unit is there, or something that the pass
gives up. -/
structure Asks (decoder : Decoder σ) (whole : α → Prop) (encode : α → Bytes)
    (givenUp : Bytes → Prop) : Prop where
  prompt : ∀ {r link}, r.link = some link → link.broken = false → ∀ state,
    ((decoder.pass state).Prompt r ↔
      (∃ unit later, whole unit ∧ link.inbound = encode unit ++ later) ∨ givenUp link.inbound)
  refused : ∀ {r link}, r.link = some link → link.broken = false → givenUp link.inbound →
    ∀ state, ((decoder.pass state).run r).1.1 = false

/-- A pass that takes a unit is of use if something follows the unit. -/
theorem Takes.goesOn_iff (takes : decoder.Takes whole encode deliver) (isWhole : whole unit)
    (held : r.link = some link) (sound : link.broken = false)
    (inbound : link.inbound = encode unit ++ later) :
    decoder.GoesOn 0 state r ↔ later ≠ [] := by
  have taken := List.length_pos_iff.mpr (takes.nonempty unit isWhole)
  have after : Reader.bytesAvailable { r with link := some { link with inbound := later } } =
      later.length := Reader.bytesAvailable_of_sound { link with inbound := later } rfl sound
  rw [goesOn_zero, takes.pass isWhole held sound inbound state, after,
    Reader.bytesAvailable_of_sound link held sound, inbound, List.length_append,
    ← List.length_pos_iff]
  exact ⟨fun useful => useful.2.1, fun some => ⟨rfl, some, by omega⟩⟩

/-- A drain finds its bytes exactly if they are made up of whole units. -/
theorem prompt_iff_madeUp (takes : decoder.Takes whole encode deliver)
    (asks : decoder.Asks whole encode givenUp) (held : r.link = some link)
    (sound : link.broken = false) (pending : link.inbound ≠ []) :
    decoder.Prompt state r ↔ MadeUp whole encode givenUp link.inbound := by
  constructor
  · induction bytes : link.inbound.length using Nat.strongRecOn generalizing state r link with
    | ind _ ih =>
      subst bytes
      rw [prompt_iff, asks.prompt held sound]
      rintro ⟨⟨unit, later, isWhole, inbound⟩ | refused, rest⟩
      · by_cases last : later = []
        · exact ⟨[unit], [], by simpa using isWhole, .inl rfl, by simp [inbound, last]⟩
        · -- What follows the unit is made up of the others.
          have prompt := rest ((takes.goesOn_iff isWhole held sound inbound).mpr last)
          rw [takes.pass isWhole held sound inbound state] at prompt
          have taken := List.length_pos_iff.mpr (takes.nonempty unit isWhole)
          have fewer : later.length < link.inbound.length := by
            rw [inbound, List.length_append]
            omega
          have left : Reader.link { r with link := some { link with inbound := later } } =
              some { link with inbound := later } := rfl
          obtain ⟨units, rest, all, ends, same⟩ := ih later.length fewer left sound last rfl prompt
          refine ⟨unit :: units, rest, List.forall_mem_cons.mpr ⟨isWhole, all⟩, ends, ?_⟩
          rw [inbound, List.flatMap_cons, List.append_assoc]
          exact congrArg (encode unit ++ ·) same
      · exact ⟨[], link.inbound, List.forall_mem_nil _, .inr refused, rfl⟩
  · rintro ⟨units, rest, all, ends, inbound⟩
    induction units generalizing state r link with
    | nil =>
      -- Nothing but what is given up is there, and the pass that gives it up is the last.
      rw [List.flatMap_nil, List.nil_append] at inbound
      have refused : givenUp link.inbound := by
        rcases ends with none | refused
        · exact absurd (inbound.trans none) pending
        · rwa [inbound]
      refine prompt_iff.mpr ⟨(asks.prompt held sound state).mpr (.inr refused), fun useful => ?_⟩
      have got := (goesOn_zero.mp useful).1
      rw [asks.refused held sound refused] at got
      cases got
    | cons unit units ih =>
      rw [List.forall_mem_cons] at all
      rw [List.flatMap_cons, List.append_assoc] at inbound
      refine prompt_iff.mpr
        ⟨(asks.prompt held sound state).mpr (.inl ⟨unit, _, all.1, inbound⟩), fun useful => ?_⟩
      have more := (takes.goesOn_iff all.1 held sound inbound).mp useful
      have left : Reader.link
          { r with link := some { link with inbound := units.flatMap encode ++ rest } } =
          some { link with inbound := units.flatMap encode ++ rest } := rfl
      rw [takes.pass all.1 held sound inbound state]
      exact ih left sound more all.2 rfl

end

/-! ### Records -/

theorem modest_fixed {interface : String} {size : Nat} {sink : σ → Bytes → σ}
    (bounded : size < Reader.readLimit) : (fixed interface size sink).Modest := by
  refine fun state => ⟨bounded, fun bytes? _ => ?_⟩
  cases bytes? <;> trivial

theorem asks_fixed (interface : String) (size : Nat) (sink : σ → Bytes → σ) :
    (fixed interface size sink).Asks (IsRecord size) id fun _ => False where
  prompt := by
    intro r link held sound state
    have asked : ((fixed interface size sink).pass state).Prompt r ↔ r.Offers size := by
      refine and_iff_left ?_
      cases (r.readBytes size).1 <;> trivial
    rw [asked, Reader.Offers, Reader.bytesAvailable_of_sound link held sound, or_false]
    constructor
    · rintro ⟨enough, bounded⟩
      exact ⟨link.inbound.take size, link.inbound.drop size,
        ⟨List.length_take_of_le enough, bounded⟩, (List.take_append_drop size _).symm⟩
    · rintro ⟨record, later, ⟨rfl, bounded⟩, inbound⟩
      rw [inbound, List.length_append]
      exact ⟨Nat.le_add_right _ _, bounded⟩
  refused _ _ refused := refused.elim

theorem madeUp_records_iff {size : Nat} {bytes : Bytes} (pending : bytes ≠ []) :
    MadeUp (IsRecord size) id (fun _ => False) bytes ↔
      size < Reader.readLimit ∧ size ∣ bytes.length := by
  constructor
  · rintro ⟨units, rest, all, rfl | ⟨⟨⟩⟩, rfl⟩
    rw [List.append_nil, List.flatMap_id] at *
    have whole : ∀ record ∈ units, record.length = size := fun record mem => (all record mem).1
    cases units with
    | nil => exact absurd rfl pending
    | cons record units =>
      refine ⟨(all record List.mem_cons_self).2, ?_⟩
      rw [length_flatten_of_whole whole]
      exact Nat.dvd_mul_left size _
  · rintro ⟨bounded, even⟩
    refine ⟨wholeRecords size bytes, [], ?_, .inl rfl, ?_⟩
    · exact fun record mem => ⟨length_of_mem_wholeRecords mem, bounded⟩
    · rw [List.append_nil, List.flatMap_id, (flatten_wholeRecords_eq_iff size bytes).mpr even]

/-- A drain of single records finds its bytes exactly if those of whole records are there. -/
theorem prompt_fixed_iff (interface : String) {size : Nat} (sink : σ → Bytes → σ)
    (positive : 0 < size) (held : r.link = some link) (sound : link.broken = false)
    (pending : link.inbound ≠ []) :
    (fixed interface size sink).Prompt state r ↔
      size < Reader.readLimit ∧ size ∣ link.inbound.length := by
  rw [prompt_iff_madeUp (takes_fixed interface positive sink) (asks_fixed interface size sink) held
    sound pending, madeUp_records_iff pending]

/-! ### Batches -/

/-- Bytes that begin with the number of a batch that is too large. -/
def Overfull (bytes : Bytes) : Prop :=
  4 ≤ bytes.length ∧ maxBatchRecords < Bytes.toWord (bytes.take 4)

/-- A batch is there exactly if all of its bytes are. If no word can count them they are not, and what
is asked for instead leads to no batch. -/
theorem prompt_takeBatch (size count : Nat) (sink : σ → List Bytes → σ) (sound : r.Sound) :
    (takeBatch size count sink state).Prompt r ↔ r.Offers (count * size) := by
  rw [takeBatch, Pass.Prompt]
  rcases Nat.lt_or_ge (count * size) UInt64.size with fits | wraps
  · rw [wordProduct_of_lt fits]
    refine and_iff_left ?_
    cases read : (r.readBytes (count * size)).1 with
    | none => trivial
    | some payload =>
      have length := (Reader.length_readBytes read).trans (wordProduct_of_lt fits).symm
      dsimp only
      rw [Bytes.slices?_of_wordProduct length, if_pos fits]
      trivial
  · refine iff_of_false ?_ fun offers =>
      Nat.not_lt.mpr wraps (Nat.lt_trans offers.2 Reader.readLimit_lt)
    rintro ⟨⟨enough, bounded⟩, later⟩
    obtain ⟨link, held, valid⟩ := sound
    rw [Reader.bytesAvailable_of_sound link held valid] at enough
    rw [Reader.readBytes_of_le held valid bounded enough] at later
    dsimp only at later
    rw [Bytes.slices?_of_wordProduct (List.length_take_of_le enough),
      if_neg (Nat.not_lt.mpr wraps)] at later
    exact later

/-- A pass over batches asks for the number of one, and for the batch unless that is too large. -/
theorem prompt_pass_batch (interface : String) (size : Nat) (sink : σ → List Bytes → σ)
    (held : r.link = some link) (sound : link.broken = false) :
    ((batch interface size sink).pass state).Prompt r ↔
      4 ≤ link.inbound.length ∧ (Bytes.toWord (link.inbound.take 4) ≤ maxBatchRecords →
        Bytes.toWord (link.inbound.take 4) * size ≤ link.inbound.length - 4 ∧
          Bytes.toWord (link.inbound.take 4) * size < Reader.readLimit) := by
  have small : 4 < Reader.readLimit := by decide
  have number : r.Offers 4 ↔ 4 ≤ link.inbound.length := by
    rw [Reader.Offers, Reader.bytesAvailable_of_sound link held sound]
    exact and_iff_left small
  by_cases enough : 4 ≤ link.inbound.length
  · have left : Reader.bytesAvailable
        { r with link := some { link with inbound := link.inbound.drop 4 } } =
        link.inbound.length - 4 := by
      rw [Reader.bytesAvailable_of_sound { link with inbound := link.inbound.drop 4 } rfl sound,
        List.length_drop]
    simp only [batch, Pass.Prompt, number, enough, true_and,
      Reader.readBytes_of_le held sound small enough]
    by_cases many : maxBatchRecords < Bytes.toWord (link.inbound.take 4)
    · simp [many, Nat.not_le.mpr many, Pass.Prompt]
    · have sound' : Reader.Sound
          { r with link := some { link with inbound := link.inbound.drop 4 } } := ⟨_, rfl, sound⟩
      simp only [many, if_false, prompt_takeBatch _ _ _ sound', Reader.Offers, left,
        Nat.not_lt.mp many, true_imp_iff]
  · exact iff_of_false (fun prompt => enough (number.mp prompt.1)) fun both => enough both.1

/-- A batch begins the bytes exactly if its number and its records do. -/
theorem exists_batch_iff {size : Nat} {bytes : Bytes} :
    (∃ records later, IsBatch size records ∧ bytes = Bytes.ofBatch records ++ later) ↔
      4 ≤ bytes.length ∧ Bytes.toWord (bytes.take 4) ≤ maxBatchRecords ∧
        Bytes.toWord (bytes.take 4) * size ≤ bytes.length - 4 ∧
          Bytes.toWord (bytes.take 4) * size < Reader.readLimit := by
  constructor
  · -- The number is read back from the first four bytes, and the records are as many as it says.
    rintro ⟨records, later, batch, rfl⟩
    have header : (Bytes.ofBatch records ++ later).take 4 = Bytes.ofWord 4 records.length := by
      rw [Bytes.ofBatch, List.append_assoc, List.take_left' (Bytes.length_ofWord 4 _)]
    have length : (Bytes.ofBatch records ++ later).length =
        4 + records.flatten.length + later.length := by
      rw [Bytes.ofBatch, List.length_append, List.length_append, Bytes.length_ofWord]
    rw [header, batch.toWord_length, ← batch.length_flatten, length]
    exact ⟨by omega, batch.few, by omega, batch.bounded⟩
  · rintro ⟨enough, few, payload, bounded⟩
    -- The records are cut from what follows the number.
    have even : size * Bytes.toWord (bytes.take 4) ≤ (bytes.drop 4).length := by
      rw [List.length_drop, Nat.mul_comm]
      exact payload
    have whole : ∀ record ∈ Bytes.cut size (Bytes.toWord (bytes.take 4)) (bytes.drop 4),
        record.length = size := fun record mem => length_of_mem_cut even mem
    have length := Bytes.length_cut size (Bytes.toWord (bytes.take 4)) (bytes.drop 4)
    have number : Bytes.ofWord 4 (Bytes.toWord (bytes.take 4)) = bytes.take 4 := by
      have same := Bytes.ofWord_toWord (bytes.take 4)
      rwa [List.length_take_of_le enough] at same
    refine ⟨_, (bytes.drop 4).drop (size * Bytes.toWord (bytes.take 4)), ⟨whole, ?_, ?_⟩, ?_⟩
    · rwa [length]
    · rwa [length_flatten_of_whole whole, length]
    · rw [Bytes.ofBatch, length, number, flatten_cut, List.append_assoc, List.take_append_drop,
        List.take_append_drop]

theorem asks_batch (interface : String) (size : Nat) (sink : σ → List Bytes → σ) :
    (batch interface size sink).Asks (IsBatch size) Bytes.ofBatch Overfull where
  prompt := by
    intro r link held sound state
    rw [prompt_pass_batch interface size sink held sound, exists_batch_iff, Overfull, ← and_or_left]
    refine and_congr_right fun _ => ?_
    by_cases many : maxBatchRecords < Bytes.toWord (link.inbound.take 4)
    · simp [many, Nat.not_le.mpr many]
    · simp [many, Nat.not_lt.mp many]
  refused := by
    rintro r link held sound ⟨enough, many⟩ state
    simp [batch, Pass.run, Reader.readBytes_of_le held sound (by decide) enough, many]

theorem modest_takeBatch {size count : Nat} (bounded : count * size < Reader.readLimit)
    (sink : σ → List Bytes → σ) (state : σ) : (takeBatch size count sink state).Modest := by
  refine ⟨Nat.lt_of_le_of_lt (wordProduct_le _ _) bounded, fun payload? asked => ?_⟩
  cases payload? with
  | none => trivial
  | some payload =>
    dsimp only
    rw [Bytes.slices?_of_wordProduct (asked payload rfl),
      if_pos (Nat.lt_trans bounded Reader.readLimit_lt)]
    trivial

theorem modest_batch {interface : String} {size : Nat} {sink : σ → List Bytes → σ}
    (bounded : maxBatchRecords * size < Reader.readLimit) :
    (batch interface size sink).Modest := by
  refine fun state => ⟨by decide, fun header? _ => ?_⟩
  cases header? with
  | none => trivial
  | some header =>
    dsimp only
    split
    · trivial
    · next few =>
      have fewer := Nat.mul_le_mul_right size (Nat.not_lt.mp few)
      exact modest_takeBatch (Nat.lt_of_le_of_lt fewer bounded) sink state

/-- A drain of batches finds its bytes exactly if those of whole batches are there. -/
theorem prompt_batch_iff (interface : String) (size : Nat) (sink : σ → List Bytes → σ)
    (held : r.link = some link) (sound : link.broken = false) (pending : link.inbound ≠ []) :
    (batch interface size sink).Prompt state r ↔
      MadeUp (IsBatch size) Bytes.ofBatch Overfull link.inbound :=
  prompt_iff_madeUp (takes_batch interface size sink) (asks_batch interface size sink) held sound
    pending

end Decoder

end SensorClient
