import SensorClient.Proofs.Session.Dispatch
import SensorClient.Proofs.Session.Lifecycle

/-!
# What becomes of the bytes

A session that keeps the records of one size takes all that is pending with every dispatch, and
keeps the whole records of it. Whatever arrives in between, and whether the session runs or not when
it arrives, stays pending until then. So the bytes that come after the acknowledgement are those
that the dispatches found, in order, and those still pending; as long as the daemon sends whole
records, they are also the records kept and the bytes still pending.

## Main definitions

* `Event.viaDecoder`: bytes leave the connection only through the decoder
* `Session.arrivals`: the bytes that arrive in the course of a run
* `Session.found`: what each dispatch of a run found pending
* `Session.HandsOn`: a session that hands records of one size on, over a sound connection
* `Session.Recording`: one that keeps them

## Main results

* `HandsOn.law_step`, `HandsOn.law_run`: an event, and a run, hands on the whole records of what its
  dispatches find, and what they find and what is then pending makes up what came
* `Recording.law_run`: the same where the records are kept
* `Opened.conserves`: no byte of whole records is lost, repeated or moved
-/

namespace SensorClient

/-- Bytes leave the connection only through the decoder, and the client's descriptor stays
valid. -/
def Event.viaDecoder : Event → Bool
  | .op (.read _) | .breakDescriptor => false
  | _ => true

/-- A drain of records that no memory can hold takes nothing and never comes back. -/
theorem Decoder.drain_oversized {σ : Type} {interface : String} {size : Nat}
    {sink : σ → Bytes → σ} {r : Reader} (state : σ) (sound : r.Sound)
    (oversized : Reader.readLimit ≤ size) :
    (fixed interface size sink).drain state r =
      (1, state, { r with halted := r.halted <|> some .oversized }) := by
  obtain ⟨link, held, -⟩ := sound
  simp [drain_eq, fixed, Pass.run, Reader.readBytes_of_oversized held oversized]

namespace Session

section

variable {σ : Type} {s : Session σ} {e : Event}

/-! ## Arrivals and dispatches -/

/-- The bytes that are there and not yet taken. -/
def pending (s : Session σ) : Bytes := s.reader.pending

theorem pending_of_held {link : Link} (held : s.reader.link = some link) :
    s.pending = link.inbound := by
  simp [pending, Reader.pending, held]

/-- The bytes that arrive with an event. -/
def arriving (s : Session σ) : Event → Bytes
  | .feed bytes => if s.reader.link.any fun link => (link.feed bytes).1 then bytes else []
  | _ => []

/-- The bytes that arrive in the course of a run. -/
def arrivals (s : Session σ) : List Event → Bytes
  | [] => []
  | e :: events => s.arriving e ++ (s.step e).arrivals events

/-- What an event finds pending if it is a dispatch. -/
def found? (s : Session σ) : Event → Option Bytes
  | .op .dataReceived => some s.pending
  | .op (.processEvents _) =>
    if s.reader.subscribed = true ∧ 0 < s.bytesAvailable then some s.pending else none
  | _ => none

/-- What each dispatch of a run finds pending. -/
def found (s : Session σ) : List Event → List Bytes
  | [] => []
  | e :: events => (s.found? e).toList ++ (s.step e).found events

theorem pending_feed (s : Session σ) (bytes : Bytes) :
    (s.step (.feed bytes)).pending = s.pending ++ s.arriving (.feed bytes) := by
  cases held : s.reader.link with
  | none => simp [step, onLink, Reader.onLink, pending, Reader.pending, arriving, held]
  | some link =>
    simp only [step, onLink, Reader.onLink, pending, Reader.pending, arriving, held,
      Option.map_some, Option.elim_some, Option.any_some]
    unfold Link.feed
    repeat' split
    all_goals simp_all

/-- An event that is no dispatch leaves what was made of the samples, and adds what arrives. -/
theorem step_of_found?_none (via : e.viaDecoder = true) (none : s.found? e = none) :
    (s.step e).sink = s.sink ∧ (s.step e).pending = s.pending ++ s.arriving e := by
  cases e with
  | op op =>
    -- Either the operation takes no bytes at all, or it waited for samples in vain.
    have kept : (s.perform op).2.sink = s.sink ∧ (s.perform op).2.reader.link = s.reader.link := by
      by_cases reads : op.reads = true
      · cases op with
        | processEvents limit =>
          have idle : ¬ s.Decodes limit := by
            rw [decodes_iff]
            intro decodes
            simp [found?, decodes] at none
          have left := leavesDecoder_of_not_decodes idle
          exact ⟨left.1, left.2.1⟩
        | _ => contradiction
      · exact (s.perform_effect op).samples (Bool.eq_false_iff.mpr reads)
    refine ⟨kept.1, Eq.trans ?_ (List.append_nil _).symm⟩
    exact congrArg (Option.elim · [] Link.inbound) kept.2
  | feed bytes => exact ⟨rfl, s.pending_feed bytes⟩
  | shutdown | hangUp =>
    refine ⟨rfl, Eq.trans ?_ (List.append_nil _).symm⟩
    cases held : s.reader.link <;>
      simp [step, onLink, Reader.onLink, pending, Reader.pending, held, Link.shutdown, Link.hangUp]
  | breakDescriptor => contradiction

/-- A dispatch finds what is pending and has it decoded, and nothing arrives with it. -/
theorem step_of_found?_some {bytes : Bytes} (some : s.found? e = some bytes) :
    bytes = s.pending ∧ s.arriving e = [] ∧ s.step e = s.dataReceived.2 := by
  cases e with
  | op op =>
    cases op with
    | dataReceived =>
      cases some
      exact ⟨rfl, rfl, rfl⟩
    | processEvents limit =>
      rw [found?, Option.ite_none_right_eq_some] at some
      obtain ⟨⟨subscribed, pending⟩, some⟩ := some
      cases some
      exact ⟨rfl, rfl, congrArg Prod.snd (processEvents_of_pending subscribed pending limit)⟩
    | _ => cases some
  | _ => cases some

end

/-! ## Handing records of one size on -/

/-- A connection stays sound until the client's descriptor is lost. -/
theorem sound_step {σ : Type} {s : Session σ} {e : Event} (sound : s.reader.Sound)
    (valid : e ≠ .breakDescriptor) : (s.step e).reader.Sound := by
  obtain ⟨link, held, intact⟩ := sound
  cases e with
  | op op =>
    change (s.perform op).2.reader.Sound
    rw [← Reader.sound_bare, (s.perform_effect op).reader]
    exact (Reader.sound_bare s.reader).mpr ⟨link, held, intact⟩
  | feed bytes =>
    rw [← Reader.sound_bare, show (s.step (.feed bytes)).reader.bare = s.reader.bare from
      Reader.bare_feed s.reader bytes]
    exact (Reader.sound_bare s.reader).mpr ⟨link, held, intact⟩
  | shutdown => exact ⟨link.shutdown, by simp [Session.step, onLink, Reader.onLink, held], intact⟩
  | hangUp => exact ⟨link.hangUp, by simp [Session.step, onLink, Reader.onLink, held], intact⟩
  | breakDescriptor => contradiction

theorem sound_run {σ : Type} {s : Session σ} {events : List Event} (sound : s.reader.Sound)
    (valid : .breakDescriptor ∉ events) : (s.run events).reader.Sound :=
  run_induction (A := (· ≠ .breakDescriptor)) (P := fun t => t.reader.Sound)
    (fun _ _ valid sound => sound_step sound valid) (fun _ mem broken => valid (broken ▸ mem)) sound

/-- A session that hands records of one size on to a sink, over a sound connection. -/
structure HandsOn {σ : Type} (s : Session σ) (size : Nat) (sink : σ → Bytes → σ) : Prop where
  decoder : ∃ interface, s.decoder = .fixed interface size sink
  sound : s.reader.Sound

namespace HandsOn

variable {σ : Type} {s : Session σ} {size : Nat} {sink : σ → Bytes → σ} {e : Event}
  {events : List Event}

theorem step (handsOn : s.HandsOn size sink) (via : e.viaDecoder = true) :
    (s.step e).HandsOn size sink where
  decoder := by
    rw [decoder_step]
    exact handsOn.decoder
  sound := sound_step handsOn.sound fun broken => by simp [broken, Event.viaDecoder] at via

theorem run (handsOn : s.HandsOn size sink) (via : ∀ e ∈ events, e.viaDecoder = true) :
    (s.run events).HandsOn size sink :=
  run_induction (A := fun e => e.viaDecoder = true) (P := fun t => t.HandsOn size sink)
    (fun _ _ via handsOn => handsOn.step via) via handsOn

/-- A dispatch hands on the whole records that are pending and leaves nothing. -/
theorem dataReceived (handsOn : s.HandsOn size sink) (positive : 1 ≤ size)
    (bounded : size < Reader.readLimit) :
    s.dataReceived.2.sink = (wholeRecords size s.pending).foldl sink s.sink ∧
      s.dataReceived.2.pending = [] := by
  obtain ⟨interface, decoder⟩ := handsOn.decoder
  obtain ⟨link, held, sound⟩ := handsOn.sound
  obtain ⟨halted, drained⟩ :=
    Decoder.drain_fixed interface sink s.sink positive bounded held sound
  rw [Session.dataReceived, decoder, drained, pending_of_held held]
  exact ⟨rfl, rfl⟩

/-- A dispatch of records that no memory can hold takes nothing and never comes back. -/
theorem dataReceived_oversized (handsOn : s.HandsOn size sink)
    (oversized : Reader.readLimit ≤ size) :
    s.dataReceived.2.sink = s.sink ∧ s.dataReceived.2.pending = s.pending ∧
      s.dataReceived.2.reader.halted ≠ none := by
  obtain ⟨interface, decoder⟩ := handsOn.decoder
  rw [Session.dataReceived, decoder, Decoder.drain_oversized s.sink handsOn.sound oversized]
  refine ⟨rfl, rfl, ?_⟩
  cases s.reader.halted <;> nofun

/-- An event hands on the whole records of what it finds, and what it finds and leaves makes up what
was pending and arrives. -/
theorem law_step (handsOn : s.HandsOn size sink) (positive : 1 ≤ size)
    (bounded : size < Reader.readLimit) (via : e.viaDecoder = true) :
    (s.step e).sink = ((s.found? e).toList.flatMap (wholeRecords size)).foldl sink s.sink ∧
      s.pending ++ s.arriving e = (s.found? e).toList.flatten ++ (s.step e).pending := by
  cases found : s.found? e with
  | none =>
    obtain ⟨sink, pending⟩ := step_of_found?_none via found
    simp [sink, pending]
  | some bytes =>
    obtain ⟨rfl, arriving, step⟩ := step_of_found?_some found
    obtain ⟨sink, pending⟩ := handsOn.dataReceived positive bounded
    simp [step, sink, pending, arriving]

/-- A run hands on the whole records of what its dispatches find, and what they find and what is
then pending makes up what was pending and arrives. -/
theorem law_run (handsOn : s.HandsOn size sink) (positive : 1 ≤ size)
    (bounded : size < Reader.readLimit) (via : ∀ e ∈ events, e.viaDecoder = true) :
    (s.run events).sink = ((s.found events).flatMap (wholeRecords size)).foldl sink s.sink ∧
      s.pending ++ s.arrivals events = (s.found events).flatten ++ (s.run events).pending := by
  induction events generalizing s with
  | nil => simp [found, arrivals]
  | cons e events ih =>
    rw [List.forall_mem_cons] at via
    obtain ⟨handed, bytes⟩ := handsOn.law_step positive bounded via.1
    obtain ⟨later, rest⟩ := ih (handsOn.step via.1) via.2
    constructor
    -- What the first event hands on comes before what the rest of the run does.
    · calc
        (s.run (e :: events)).sink =
            (((s.step e).found events).flatMap (wholeRecords size)).foldl sink
              (s.step e).sink := later
        _ = ((s.found (e :: events)).flatMap (wholeRecords size)).foldl sink s.sink := by
          rw [handed, found, List.flatMap_append, List.foldl_append]
    · calc
        s.pending ++ s.arrivals (e :: events) =
            s.pending ++ s.arriving e ++ (s.step e).arrivals events := by
          rw [arrivals, List.append_assoc]
        _ = (s.found? e).toList.flatten ++
            ((s.step e).pending ++ (s.step e).arrivals events) := by
          rw [bytes, List.append_assoc]
        _ = (s.found (e :: events)).flatten ++ (s.run (e :: events)).pending := by
          rw [rest, found, List.flatten_append, List.append_assoc]
          rfl

/-- Records that no memory can hold are never handed on, and everything that arrives stays
pending. -/
theorem law_run_oversized (handsOn : s.HandsOn size sink) (oversized : Reader.readLimit ≤ size)
    (via : ∀ e ∈ events, e.viaDecoder = true) :
    (s.run events).sink = s.sink ∧ (s.run events).pending = s.pending ++ s.arrivals events := by
  induction events generalizing s with
  | nil => simp [arrivals]
  | cons e events ih =>
    rw [List.forall_mem_cons] at via
    -- A dispatch is no different from any other event here: it takes nothing.
    have first : (s.step e).sink = s.sink ∧ (s.step e).pending = s.pending ++ s.arriving e := by
      cases found : s.found? e with
      | none => exact step_of_found?_none via.1 found
      | some bytes =>
        obtain ⟨-, arriving, step⟩ := step_of_found?_some found
        obtain ⟨sink, pending, -⟩ := handsOn.dataReceived_oversized oversized
        simp [step, sink, pending, arriving]
    obtain ⟨sink, pending⟩ := ih (handsOn.step via.1) via.2
    refine ⟨sink.trans first.1, pending.trans ?_⟩
    rw [first.2, arrivals, List.append_assoc]

/-- Whole records are pending after an event, if there were before it and whole records arrive. -/
theorem whole_step (handsOn : s.HandsOn size sink) (positive : 1 ≤ size)
    (bounded : size < Reader.readLimit) (via : e.viaDecoder = true)
    (whole : size ∣ s.pending.length) (fed : ∀ bytes, e = .feed bytes → size ∣ bytes.length) :
    size ∣ (s.step e).pending.length := by
  have arriving : size ∣ (s.arriving e).length := by
    cases e with
    | feed bytes =>
      rw [Session.arriving]
      split
      · exact fed bytes rfl
      · exact Nat.dvd_zero size
    | _ => exact Nat.dvd_zero size
  -- A dispatch leaves nothing, and anything else leaves whole records with whole records added.
  cases found : s.found? e with
  | none =>
    rw [(step_of_found?_none via found).2, List.length_append]
    exact Nat.dvd_add whole arriving
  | some bytes =>
    rw [(step_of_found?_some found).2.2, (handsOn.dataReceived positive bounded).2]
    exact Nat.dvd_zero size

/-- As long as whole records arrive, whole records are pending. -/
theorem whole_run (handsOn : s.HandsOn size sink) (positive : 1 ≤ size)
    (bounded : size < Reader.readLimit) (via : ∀ e ∈ events, e.viaDecoder = true)
    (whole : size ∣ s.pending.length)
    (feeds : ∀ bytes, .feed bytes ∈ events → size ∣ bytes.length) :
    size ∣ (s.run events).pending.length := by
  induction events generalizing s with
  | nil => exact whole
  | cons e events ih =>
    rw [List.forall_mem_cons] at via
    have left := handsOn.whole_step positive bounded via.1 whole fun bytes fed =>
      feeds bytes (fed ▸ List.mem_cons_self)
    exact ih (handsOn.step via.1) via.2 left fun bytes fed => feeds bytes (.tail _ fed)

/-- As long as whole records arrive, every dispatch finds whole records. -/
theorem found_whole (handsOn : s.HandsOn size sink) (positive : 1 ≤ size)
    (bounded : size < Reader.readLimit) (via : ∀ e ∈ events, e.viaDecoder = true)
    (whole : size ∣ s.pending.length)
    (feeds : ∀ bytes, .feed bytes ∈ events → size ∣ bytes.length) :
    ∀ bytes ∈ s.found events, size ∣ bytes.length := by
  induction events generalizing s with
  | nil => simp [found]
  | cons e events ih =>
    rw [List.forall_mem_cons] at via
    have left := handsOn.whole_step positive bounded via.1 whole fun bytes fed =>
      feeds bytes (fed ▸ List.mem_cons_self)
    rw [found, List.forall_mem_append]
    refine ⟨?_, ih (handsOn.step via.1) via.2 left fun bytes fed => feeds bytes (.tail _ fed)⟩
    cases found : s.found? e with
    | none => simp
    | some bytes => simpa [(step_of_found?_some found).1] using whole

end HandsOn

/-! ## Keeping records of one size -/

/-- A session that keeps the records of one size, over a sound connection. -/
structure Recording (s : Session (List Bytes)) (size : Nat) : Prop where
  decoder : ∃ interface, s.decoder = .recording interface size
  sound : s.reader.Sound

namespace Recording

variable {s : Session (List Bytes)} {size : Nat} {e : Event} {events : List Event}

/-- To keep the records is to hand them on to a list. -/
theorem iff_handsOn :
    s.Recording size ↔ s.HandsOn size fun kept record => kept ++ [record] :=
  ⟨fun recording => ⟨recording.decoder, recording.sound⟩,
    fun handsOn => ⟨handsOn.decoder, handsOn.sound⟩⟩

theorem step (recording : s.Recording size) (via : e.viaDecoder = true) :
    (s.step e).Recording size :=
  iff_handsOn.mpr ((iff_handsOn.mp recording).step via)

theorem run (recording : s.Recording size) (via : ∀ e ∈ events, e.viaDecoder = true) :
    (s.run events).Recording size :=
  iff_handsOn.mpr ((iff_handsOn.mp recording).run via)

/-- A dispatch keeps the whole records that are pending and leaves nothing. -/
theorem dataReceived (recording : s.Recording size) (positive : 1 ≤ size)
    (bounded : size < Reader.readLimit) :
    s.dataReceived.2.sink = s.sink ++ wholeRecords size s.pending ∧
      s.dataReceived.2.pending = [] := by
  rw [← foldl_keep]
  exact (iff_handsOn.mp recording).dataReceived positive bounded

/-- A dispatch of records that no memory can hold takes nothing and never comes back. -/
theorem dataReceived_oversized (recording : s.Recording size)
    (oversized : Reader.readLimit ≤ size) :
    s.dataReceived.2.sink = s.sink ∧ s.dataReceived.2.pending = s.pending ∧
      s.dataReceived.2.reader.halted ≠ none :=
  (iff_handsOn.mp recording).dataReceived_oversized oversized

/-- An event keeps the whole records of what it finds, and what it finds and leaves makes up what
was pending and arrives. -/
theorem law_step (recording : s.Recording size) (positive : 1 ≤ size)
    (bounded : size < Reader.readLimit) (via : e.viaDecoder = true) :
    (s.step e).sink = s.sink ++ (s.found? e).toList.flatMap (wholeRecords size) ∧
      s.pending ++ s.arriving e = (s.found? e).toList.flatten ++ (s.step e).pending := by
  rw [← foldl_keep]
  exact (iff_handsOn.mp recording).law_step positive bounded via

/-- A run keeps the whole records of what its dispatches find, and what they find and what is then
pending makes up what was pending and arrives. -/
theorem law_run (recording : s.Recording size) (positive : 1 ≤ size)
    (bounded : size < Reader.readLimit) (via : ∀ e ∈ events, e.viaDecoder = true) :
    (s.run events).sink = s.sink ++ (s.found events).flatMap (wholeRecords size) ∧
      s.pending ++ s.arrivals events = (s.found events).flatten ++ (s.run events).pending := by
  rw [← foldl_keep]
  exact (iff_handsOn.mp recording).law_run positive bounded via

/-- Records that no memory can hold are never kept, and everything that arrives stays pending. -/
theorem law_run_oversized (recording : s.Recording size) (oversized : Reader.readLimit ≤ size)
    (via : ∀ e ∈ events, e.viaDecoder = true) :
    (s.run events).sink = s.sink ∧ (s.run events).pending = s.pending ++ s.arrivals events :=
  (iff_handsOn.mp recording).law_run_oversized oversized via

/-- As long as whole records arrive, every dispatch finds whole records. -/
theorem found_whole (recording : s.Recording size) (positive : 1 ≤ size)
    (bounded : size < Reader.readLimit) (via : ∀ e ∈ events, e.viaDecoder = true)
    (whole : size ∣ s.pending.length)
    (feeds : ∀ bytes, .feed bytes ∈ events → size ∣ bytes.length) :
    ∀ bytes ∈ s.found events, size ∣ bytes.length :=
  (iff_handsOn.mp recording).found_whole positive bounded via whole feeds

end Recording

end Session

namespace Opened

variable {link : Link} {s : Session (List Bytes)} {interface : String} {size : Nat}
  {events : List Event}

/-- What is pending at the beginning is what the daemon sent after its acknowledgement. -/
theorem pending (opened : Opened (some link) s) (connected : s.isConnected = true) :
    s.pending = link.inbound.drop 1 := by
  obtain ⟨held, offered, -, -, taken⟩ := opened.held connected
  cases offered
  simp [Session.pending, Reader.pending, taken]

theorem recording (opened : Opened (some link) s) (connected : s.isConnected = true)
    (decoder : s.decoder = .recording interface size) : s.Recording size where
  decoder := ⟨interface, decoder⟩
  sound := by
    obtain ⟨held, -, -, sound, taken⟩ := opened.held connected
    exact ⟨_, taken, sound⟩

/-- While the daemon sends whole records, and whatever else is done with the session but to read
past its decoder: the records kept, in order, and the bytes still pending are what came after the
acknowledgement; every record kept is whole; and whenever waiting for samples has come back from a
dispatch nothing is pending. Only a dispatch of records that no memory can hold does not come
back. -/
theorem conserves (opened : Opened (some link) s) (connected : s.isConnected = true)
    (decoder : s.decoder = .recording interface size) (empty : s.sink = []) (positive : 1 ≤ size)
    (via : ∀ e ∈ events, e.viaDecoder = true) (early : size ∣ (link.inbound.drop 1).length)
    (feeds : ∀ bytes, .feed bytes ∈ events → size ∣ bytes.length) :
    (s.run events).sink.flatten ++ (s.run events).pending =
        link.inbound.drop 1 ++ s.arrivals events ∧
      (∀ record ∈ (s.run events).sink, record.length = size) ∧
      ∀ limit passes, ((s.run events).processEvents limit).1 = .delivered passes →
        ((s.run events).processEvents limit).2.pending = [] ∨
          Reader.readLimit ≤ size ∧
            ((s.run events).processEvents limit).2.reader.halted ≠ none := by
  have recording := opened.recording connected decoder
  have now := recording.run via
  have dispatched : ∀ limit passes, ((s.run events).processEvents limit).1 = .delivered passes →
      ((s.run events).processEvents limit).2 = (s.run events).dataReceived.2 := by
    intro limit passes delivered
    obtain ⟨subscribed, pending⟩ := Session.pending_of_delivered delivered
    rw [Session.processEvents_of_pending subscribed pending]
  rcases Nat.lt_or_ge size Reader.readLimit with bounded | oversized
  · obtain ⟨sink, bytes⟩ := recording.law_run positive bounded via
    have whole := recording.found_whole positive bounded via
      (by rwa [opened.pending connected]) feeds
    rw [opened.pending connected] at bytes
    rw [empty, List.nil_append] at sink
    refine ⟨?_, ?_, ?_⟩
    · rw [bytes, sink, (flatten_flatMap_wholeRecords_eq_iff size _).mpr whole]
    · intro record mem
      rw [sink] at mem
      obtain ⟨found, -, mem⟩ := List.mem_flatMap.mp mem
      exact length_of_mem_wholeRecords mem
    · intro limit passes delivered
      rw [dispatched limit passes delivered]
      exact .inl (now.dataReceived positive bounded).2
  · obtain ⟨sink, pending⟩ := recording.law_run_oversized oversized via
    rw [empty] at sink
    rw [opened.pending connected] at pending
    refine ⟨by rw [sink, pending, List.flatten_nil, List.nil_append], by simp [sink], ?_⟩
    intro limit passes delivered
    rw [dispatched limit passes delivered]
    exact .inr ⟨oversized, (now.dataReceived_oversized oversized).2.2⟩

/-- A record that comes while the session is stopped is pending until it is started again. -/
theorem conserves_restarted :
    ((Session.acknowledged 4).run [.op .start, .feed [1, 2, 3, 4], .op .dataReceived, .op .stop,
        .feed [5, 6, 7, 8], .op (.processEvents none)]).sink.flatten ++
      ((Session.acknowledged 4).run [.op .start, .feed [1, 2, 3, 4], .op .dataReceived, .op .stop,
        .feed [5, 6, 7, 8], .op (.processEvents none)]).pending = [1, 2, 3, 4, 5, 6, 7, 8] :=
  ((opened_acknowledged 4).conserves rfl rfl rfl (by decide) (by decide) (by decide)
    (by simp)).1.trans (by decide +kernel)

end Opened

end SensorClient
