import SensorClient.Proofs.Sample.Answered
import SensorClient.Proofs.Session.Conservation
import SensorClient.Proofs.Session.LocalError

/-!
# The end of the samples

Waiting for samples finds the loss of a connection only when nothing is left on it: as long as bytes
are pending they are decoded, even if the daemon has hung up. The wait for the first byte is limited,
but the reads that decode what is pending wait for as many bytes as they ask for, so the session
comes back exactly if each of these reads is answered. Once the loss is found nothing can come any
more, so it is found again by every later wait, and whatever the daemon has sent in whole records has
been handed on before.

## Main definitions

* `Reader.CutOff`, `Reader.Dry`: nothing more can come, and nothing is left either
* `Session.Answered`: every read comes back that is made to decode what is pending
* `Session.DispatchLaw`: what waiting for samples for a limited time comes to
* `Session.AnswersPending`: the bytes, and the connections, for which the reads come back
* `Session.StaysLost`: every wait from now on finds the connection lost
* `Session.ReceivesRecords`: the daemon sends whole records, and a decoder hands them on

## Main results

* `Session.dispatchLaw`: what a wait comes to, whatever the session
* `Session.answersPending`: when it comes back
* `Session.dry_step`: what has run dry stays dry
* `Opened.samples_end`: the loss of a connection comes after the samples, and for good
-/

namespace SensorClient

/-! ## Connections that have run dry -/

namespace Link

/-- The daemon has stopped sending and nothing is left. -/
def Dry (link : Link) : Prop := link.sending = false ∧ link.inbound = []

theorem feed_of_stopped {link : Link} (stopped : link.sending = false) (bytes : Bytes) :
    (link.feed bytes).2 = link := by
  unfold feed
  rw [stopped, Bool.false_and, if_neg Bool.false_ne_true]
  repeat' split
  all_goals rfl

theorem Dry.feed {link : Link} (dry : link.Dry) (bytes : Bytes) : (link.feed bytes).2 = link :=
  feed_of_stopped dry.1 bytes

theorem Dry.readExact {link : Link} (dry : link.Dry) (wanted : Nat) :
    (link.readExact wanted).2.Dry := by
  cases broken : link.broken with
  | true => simpa [Link.readExact, broken] using dry
  | false =>
    rcases Nat.lt_or_ge link.inbound.length wanted with short | enough
    · obtain ⟨fault, failed⟩ := readExact_of_lt broken short
      rw [failed]
      exact ⟨dry.1, rfl⟩
    · rw [readExact_of_le broken enough, dry.2, List.drop_nil]
      exact ⟨dry.1, rfl⟩

end Link

namespace Reader

/-- Nothing more can come: there is no connection, or the daemon has stopped sending. -/
def CutOff (r : Reader) : Prop := ∀ link, r.link = some link → link.sending = false

/-- Nothing more can come, and nothing is left. -/
def Dry (r : Reader) : Prop := r.CutOff ∧ r.pending = []

theorem cutOff_bare (r : Reader) : r.bare.CutOff ↔ r.CutOff := by
  cases held : r.link <;> simp [CutOff, bare, held, Link.bare]

theorem dry_iff {r : Reader} : r.Dry ↔ ∀ link, r.link = some link → link.Dry := by
  cases held : r.link <;> simp [Dry, CutOff, pending, held, Link.Dry]

theorem Dry.bytesAvailable {r : Reader} (dry : r.Dry) : ¬ 0 < r.bytesAvailable := by
  rw [bytesAvailable_pos_iff]
  rintro ⟨link, held, -, left⟩
  exact left (dry_iff.mp dry link held).2

theorem Dry.feed {r : Reader} (dry : r.Dry) (bytes : Bytes) :
    (r.onLink fun link => (link.feed bytes).2) = r := by
  have same : r.link.map (fun link => (link.feed bytes).2) = r.link := by
    cases held : r.link with
    | none => rfl
    | some link => rw [Option.map_some, (dry_iff.mp dry link held).feed bytes]
  rw [onLink, same]

theorem Dry.readBytes {r : Reader} (dry : r.Dry) (wanted : Nat) : (r.readBytes wanted).2.Dry := by
  rw [dry_iff] at *
  unfold Reader.readBytes
  split
  · exact dry
  · next link held =>
    split
    · exact dry
    · have left := (dry link held).readExact wanted
      split <;> next found => simpa [found] using left

end Reader

theorem Pass.dry_run {α : Type} (pass : Pass α) {r : Reader} (dry : r.Dry) :
    (pass.run r).2.Dry := by
  induction pass generalizing r with
  | done a => exact dry
  | take wanted next ih => exact ih _ (dry.readBytes wanted)
  | count next ih => exact ih _ dry
  | arrival bytes next ih => exact ih ((dry.feed bytes).symm ▸ dry)
  | breakdown a => exact dry

theorem Decoder.dry_drain {σ : Type} (decoder : Decoder σ) (state : σ) {r : Reader} (dry : r.Dry) :
    (decoder.drain state r).2.2.Dry :=
  drain_induction (P := fun _ after => after.Dry)
    (fun state _ dry => (decoder.pass state).dry_run dry) dry

namespace Session

variable {σ : Type} {s : Session σ} {e : Event}

/-! ## What waiting comes to -/

/-- The client's descriptor, if there is one, is valid. -/
def Intact (s : Session σ) : Prop := ∀ link, s.reader.link = some link → link.broken = false

theorem intact_of_sound (sound : s.reader.Sound) : s.Intact := by
  obtain ⟨link, held, valid⟩ := sound
  intro link' held'
  cases held.symm.trans held'
  exact valid

theorem intact_step (intact : s.Intact) (valid : e ≠ .breakDescriptor) : (s.step e).Intact := by
  intro link' held'
  have connected : s.isConnected = true := by
    rw [← s.isConnected_step e, isConnected, Reader.isConnected, held', Option.isSome_some]
  obtain ⟨link, held⟩ := Option.isSome_iff_exists.mp connected
  obtain ⟨link'', held'', sound⟩ := sound_step ⟨link, held, intact link held⟩ valid
  cases held'.symm.trans held''
  exact sound

theorem intact_run {events : List Event} (intact : s.Intact)
    (valid : .breakDescriptor ∉ events) : (s.run events).Intact :=
  run_induction (A := (· ≠ .breakDescriptor)) (P := Intact) (fun _ _ valid intact =>
    intact_step intact valid) (fun _ mem broken => valid (broken ▸ mem)) intact

/-- Every read comes back that is made to decode what is pending. -/
def Answered (s : Session σ) : Prop := s.decoder.Answered s.sink s.reader

/-- What waiting for samples for a limited time comes to. -/
structure DispatchLaw (s : Session σ) (limit : Duration) : Prop where
  /-- Without a subscription there is no wait, and nothing changes. -/
  unsubscribed : s.reader.subscribed = false → s.processEvents (some limit) = (.idle, s)
  /-- Bytes that are pending are decoded. If every read for that comes back the wait does too, and
  it is no error. -/
  delivered : s.reader.subscribed = true → s.pending ≠ [] → s.reader.halted = none → s.Answered →
    ∃ passes, 1 ≤ passes ∧ (s.processEvents (some limit)).1 = .delivered passes ∧
      (s.processEvents (some limit)).2.reader.halted = none ∧
      (s.processEvents (some limit)).2.error = s.error ∧
      (s.processEvents (some limit)).2.notices = s.notices
  /-- If one does not, neither does the wait, whatever its own limit. -/
  stalled : s.reader.subscribed = true → s.pending ≠ [] → ¬ s.Answered →
    (s.processEvents (some limit)).2.reader.halted ≠ none
  /-- Where nothing is left and nothing more can come, the loss is recorded and told. -/
  disconnected : s.reader.subscribed = true → s.pending = [] → s.reader.CutOff →
    s.processEvents (some limit) =
      (.disconnected, { s with error := .lost, notices := s.notices ++ s.announcement .lost })
  /-- Where more can come, nothing changes. -/
  idle : s.reader.subscribed = true → s.pending = [] → ¬ s.reader.CutOff →
    s.processEvents (some limit) = (.idle, s)
  /-- Nothing is asked on the bus. -/
  silent : (s.processEvents (some limit)).2.talk = s.talk

/-- Which reads come back that are made to decode what is pending. -/
structure AnswersPending (s : Session σ) : Prop where
  /-- All of them do if the daemon has stopped sending or the waits of reads are limited, unless one
  asks for more than any memory can hold. -/
  limited : s.reader.endless = false → s.decoder.Modest → s.Answered
  /-- Reads of single records do if memory can hold one, and whole records are pending unless
  something ends the wait. -/
  records : ∀ interface size sink, s.decoder = .fixed interface size sink → 1 ≤ size →
    (s.Answered ↔
      size < Reader.readLimit ∧ (s.reader.endless = true → size ∣ s.pending.length))
  /-- Reads of batches that nothing else ends do if whole batches are pending, perhaps with one
  behind them that is given up. -/
  batches : ∀ interface size sink, s.decoder = .batch interface size sink →
    s.reader.endless = true →
    (s.Answered ↔ Decoder.MadeUp (IsBatch size) Bytes.ofBatch Decoder.Overfull s.pending)

theorem bytesAvailable_pos (intact : s.Intact) : 0 < s.bytesAvailable ↔ s.pending ≠ [] := by
  rw [show s.bytesAvailable = s.reader.bytesAvailable from rfl, Reader.bytesAvailable_pos_iff]
  cases held : s.reader.link with
  | none => simp [pending, Reader.pending, held]
  | some link => simp [pending, Reader.pending, held, intact link held]

theorem sound_of_pending (intact : s.Intact) (pending : s.pending ≠ []) : s.reader.Sound := by
  obtain ⟨link, held, valid, -⟩ :=
    (Reader.bytesAvailable_pos_iff s.reader).mp ((bytesAvailable_pos intact).mpr pending)
  exact ⟨link, held, valid⟩

/-- What is pending has been decoded once every read for that has come back. -/
theorem returned_dataReceived_iff (intact : s.Intact) (pending : s.pending ≠ [])
    (returned : s.reader.halted = none) :
    s.dataReceived.2.reader.halted = none ↔ s.Answered :=
  Decoder.returned_drain_iff (sound_of_pending intact pending) returned

/-- A limited wait that ends without anything changes nothing. -/
theorem await_of_timeout {r : Reader} (timeout : r.waitReadable = .ok .timeout)
    (limit : Duration) : r.await (some limit) = (.ok .timeout, r) := by
  simp [Reader.await, timeout]

/-- The loss of a connection that has run dry is found however long the wait. -/
theorem processEvents_of_dry (intact : s.Intact) (subscribed : s.reader.subscribed = true)
    (dry : s.reader.Dry) (limit : Option Duration) :
    s.processEvents limit = (.disconnected, s.lose) := by
  refine processEvents_of_lost subscribed ?_ limit
  cases held : s.reader.link with
  | none => exact .inr ⟨.notConnected, by rw [Reader.waitReadable, held]⟩
  | some link =>
    obtain ⟨cutOff, drained⟩ := Reader.dry_iff.mp dry link held
    exact .inl (by simp [Reader.waitReadable, held, Link.waitReadable, intact link held, cutOff,
      drained])

theorem processEvents_of_quiet (subscribed : s.reader.subscribed = true)
    (drained : s.pending = []) (live : ¬ s.reader.CutOff) (limit : Duration) :
    s.processEvents (some limit) = (.idle, s) := by
  have timeout : s.reader.waitReadable = .ok .timeout := by
    cases held : s.reader.link with
    | none => exact absurd (by simp [Reader.CutOff, held]) live
    | some link =>
      have drained : link.inbound = [] := by simpa [pending, Reader.pending, held] using drained
      have sending : link.sending = true := by simpa [Reader.CutOff, held] using live
      simp [Reader.waitReadable, Link.waitReadable, held, drained, sending]
  rw [processEvents_of_timeout subscribed timeout, await_of_timeout timeout]

theorem reader_processEvents_of_drained (intact : s.Intact)
    (subscribed : s.reader.subscribed = true) (drained : s.pending = []) (limit : Duration) :
    (s.processEvents (some limit)).2.reader = s.reader := by
  by_cases cutOff : s.reader.CutOff
  · rw [processEvents_of_dry intact subscribed ⟨cutOff, drained⟩]
    rfl
  · rw [processEvents_of_quiet subscribed drained cutOff]

theorem dispatchLaw (intact : s.Intact) (limit : Duration) : s.DispatchLaw limit where
  unsubscribed unsubscribed := processEvents_of_unsubscribed unsubscribed _
  delivered subscribed pending returned answered := by
    rw [processEvents_of_pending subscribed ((bytesAvailable_pos intact).mpr pending)]
    exact ⟨_, s.decoder.one_le_drain s.sink s.reader, rfl,
      (returned_dataReceived_iff intact pending returned).mpr answered, rfl, rfl⟩
  stalled subscribed pending unanswered := by
    rw [processEvents_of_pending subscribed ((bytesAvailable_pos intact).mpr pending)]
    -- A read that did not come back before has not come back now either.
    intro back
    have returned : s.reader.halted = none := Decoder.returned_of_drain back
    exact unanswered ((returned_dataReceived_iff intact pending returned).mp back)
  disconnected subscribed drained cutOff :=
    processEvents_of_dry intact subscribed ⟨cutOff, drained⟩ _
  idle subscribed drained live := processEvents_of_quiet subscribed drained live _
  silent := s.talk_processEvents _

theorem answersPending (intact : s.Intact) (pending : s.pending ≠ []) : s.AnswersPending := by
  obtain ⟨link, held, valid⟩ := sound_of_pending intact pending
  have bytes : s.pending = link.inbound := pending_of_held held
  constructor
  · exact fun limited modest => modest.answered s.sink limited
  · intro interface size sink decoder positive
    cases endless : s.reader.endless with
    | true =>
      -- Where nothing ends a wait, the reads that come back are those that find their bytes.
      rw [Answered, ← Decoder.prompt_iff_answered endless, decoder, bytes,
        Decoder.prompt_fixed_iff interface sink positive held valid (bytes ▸ pending)]
      simp only [true_imp_iff]
    | false =>
      simp only [Bool.false_eq_true, false_imp_iff, and_true]
      constructor
      · -- The first pass asks for a record, so some memory can hold one.
        intro answered
        have first := answered 0 (s.decoder.one_le_drain s.sink s.reader)
        rw [decoder] at first
        exact first.1.1
      · intro bounded
        exact (decoder ▸ Decoder.modest_fixed bounded : s.decoder.Modest).answered s.sink endless
  · intro interface size sink decoder endless
    rw [Answered, ← Decoder.prompt_iff_answered endless, decoder, bytes]
    exact Decoder.prompt_batch_iff interface size sink held valid (bytes ▸ pending)

/-- Only what has run dry is found to be lost. -/
theorem dry_of_disconnected {limit : Duration} (intact : s.Intact)
    (disconnected : (s.processEvents (some limit)).1 = .disconnected) :
    s.reader.Dry ∧ (s.processEvents (some limit)).2.reader = s.reader := by
  cases subscribed : s.reader.subscribed with
  | false =>
    rw [processEvents_of_unsubscribed subscribed] at disconnected
    cases disconnected
  | true =>
    by_cases drained : s.pending = []
    · by_cases cutOff : s.reader.CutOff
      · rw [processEvents_of_dry intact subscribed ⟨cutOff, drained⟩]
        exact ⟨⟨cutOff, drained⟩, rfl⟩
      · rw [processEvents_of_quiet subscribed drained cutOff] at disconnected
        cases disconnected
    · -- As long as bytes are pending they are decoded.
      rw [processEvents_of_pending subscribed ((bytesAvailable_pos intact).mpr drained)]
        at disconnected
      cases disconnected

/-! ## The loss is for good -/

/-- What has run dry stays dry. -/
theorem dry_step (dry : s.reader.Dry) (e : Event) : (s.step e).reader.Dry := by
  -- Most operations leave the connection alone; a wait does, where there is nothing to decode.
  have kept {link' : Option Link} (same : link' = s.reader.link) :
      ∀ link, link' = some link → link.Dry := by
    rw [same]
    exact Reader.dry_iff.mp dry
  cases e with
  | op op =>
    cases op with
    | read buffer =>
      change (s.reader.read buffer).2.2.Dry
      have left := dry.readBytes buffer.length
      unfold Reader.read
      split <;> next found => simpa [found] using left
    | dataReceived => exact s.decoder.dry_drain s.sink dry
    | processEvents limit =>
      have idle : ¬ s.Decodes limit := fun decodes =>
        dry.bytesAvailable ((s.decodes_iff limit).mp decodes).2
      exact Reader.dry_iff.mpr (kept (leavesDecoder_of_not_decodes idle).2.1)
    | _ => exact Reader.dry_iff.mpr (kept ((s.perform_effect _).samples rfl).2)
  | feed bytes =>
    change (s.reader.onLink fun link => (link.feed bytes).2).Dry
    rwa [dry.feed bytes]
  | shutdown | hangUp | breakDescriptor =>
    rw [Reader.dry_iff] at *
    intro link' held'
    obtain ⟨link, held, rfl⟩ := Option.map_eq_some_iff.mp held'
    exact ⟨by simp [Link.shutdown, Link.hangUp, Link.breakDescriptor, (dry link held).1],
      (dry link held).2⟩

theorem dry_run {events : List Event} (dry : s.reader.Dry) : (s.run events).reader.Dry :=
  run_induction (A := fun _ => True) (P := fun t => t.reader.Dry)
    (fun _ e _ dry => dry_step dry e) (fun _ _ => trivial) dry

/-- Nothing arrives where the daemon has stopped sending. -/
theorem arriving_of_dry (dry : s.reader.Dry) (e : Event) : s.arriving e = [] := by
  cases e with
  | feed bytes =>
    have same := s.pending_feed bytes
    rw [show (s.step (.feed bytes)).pending = [] from (dry_step dry _).2,
      show s.pending = [] from dry.2, List.nil_append] at same
    exact same.symm
  | _ => rfl

theorem arrivals_of_dry {events : List Event} (dry : s.reader.Dry) : s.arrivals events = [] := by
  induction events generalizing s with
  | nil => rfl
  | cons e events ih => rw [arrivals, arriving_of_dry dry, ih (dry_step dry e), List.nil_append]

/-- Whatever is done with a session from now on, as long as the client's descriptor is valid,
nothing arrives, and every wait of a subscribed session comes back with the connection lost. -/
def StaysLost (s : Session σ) : Prop :=
  ∀ events, .breakDescriptor ∉ events → s.arrivals events = [] ∧
    ∀ limit, (s.run events).reader.subscribed = true →
      (s.run events).processEvents limit = (.disconnected, (s.run events).lose)

theorem staysLost_of_dry (intact : s.Intact) (dry : s.reader.Dry) : s.StaysLost :=
  fun _ valid => ⟨arrivals_of_dry dry, fun limit subscribed =>
    processEvents_of_dry (intact_run intact valid) subscribed (dry_run dry) limit⟩

/-! ## Whole records -/

/-- The daemon sends whole records, and a decoder hands them on one at a time, through which alone
bytes leave the connection. -/
structure ReceivesRecords (s : Session σ) (link : Link) (events : List Event) (size : Nat)
    (sink : σ → Bytes → σ) : Prop where
  connected : s.isConnected = true
  decoder : ∃ interface, s.decoder = .fixed interface size sink
  positive : 1 ≤ size
  via : ∀ e ∈ events, e.viaDecoder = true
  early : size ∣ (link.inbound.drop 1).length
  feeds : ∀ bytes, .feed bytes ∈ events → size ∣ bytes.length

namespace HandsOn

variable {size : Nat} {sink : σ → Bytes → σ} {events : List Event}

/-- Whole records of which nothing is left have all been handed on. -/
theorem sink_of_drained (handsOn : s.HandsOn size sink) (positive : 1 ≤ size)
    (via : ∀ e ∈ events, e.viaDecoder = true) (whole : size ∣ s.pending.length)
    (feeds : ∀ bytes, .feed bytes ∈ events → size ∣ bytes.length)
    (drained : (s.run events).pending = []) :
    (s.run events).sink =
      (wholeRecords size (s.pending ++ s.arrivals events)).foldl sink s.sink := by
  rcases Nat.lt_or_ge size Reader.readLimit with bounded | oversized
  · obtain ⟨handed, bytes⟩ := handsOn.law_run positive bounded via
    rw [drained, List.append_nil] at bytes
    rw [handed, bytes,
      wholeRecords_flatten positive (handsOn.found_whole positive bounded via whole feeds)]
  · -- Records that large are never taken, so there were none.
    obtain ⟨handed, bytes⟩ := handsOn.law_run_oversized oversized via
    rw [handed, ← bytes, drained, wholeRecords_nil]
    rfl

/-- A dispatch of whole records comes back. -/
theorem halted_dataReceived (handsOn : s.HandsOn size sink) (positive : 1 ≤ size)
    (bounded : size < Reader.readLimit) (pending : s.pending ≠ [])
    (whole : size ∣ s.pending.length) :
    s.dataReceived.2.reader.halted = s.reader.halted := by
  obtain ⟨interface, decoder⟩ := handsOn.decoder
  obtain ⟨link, held, sound⟩ := handsOn.sound
  have bytes : s.pending = link.inbound := pending_of_held held
  rw [bytes] at pending whole
  rw [Session.dataReceived, decoder]
  exact Decoder.halted_drain_fixed interface sink s.sink positive bounded held sound pending whole

/-- A subscribed session comes back from a wait for whole records with nothing left. -/
theorem drained_processEvents (handsOn : s.HandsOn size sink) (positive : 1 ≤ size)
    (bounded : size < Reader.readLimit) (whole : size ∣ s.pending.length)
    (subscribed : s.reader.subscribed = true) (limit : Duration) :
    (s.processEvents (some limit)).2.reader.halted = s.reader.halted ∧
      (s.processEvents (some limit)).2.pending = [] := by
  have intact := intact_of_sound handsOn.sound
  by_cases drained : s.pending = []
  · rw [Session.pending, reader_processEvents_of_drained intact subscribed drained]
    exact ⟨rfl, drained⟩
  · rw [processEvents_of_pending subscribed ((bytesAvailable_pos intact).mpr drained)]
    exact ⟨handsOn.halted_dataReceived positive bounded drained whole,
      (handsOn.dataReceived positive bounded).2⟩

end HandsOn

/-- A wait does not change whether more can come. -/
theorem cutOff_processEvents (cutOff : s.reader.CutOff) (limit : Option Duration) :
    (s.processEvents limit).2.reader.CutOff := by
  obtain ⟨reader, sink, error, notices, same, done⟩ := s.processEvents_snd limit
  rw [done, ← Reader.cutOff_bare]
  exact same ▸ (Reader.cutOff_bare s.reader).mpr cutOff

/-- What becomes of whole records that the daemon has sent, when the session waits for samples. -/
structure HandsAll (s : Session σ) (link : Link) (events : List Event) (size : Nat)
    (sink : σ → Bytes → σ) (limit : Duration) : Prop where
  /-- They have all been handed on, in order, when the connection is found lost. -/
  all : ((s.run events).processEvents (some limit)).1 = .disconnected →
    (s.run events).sink =
      (wholeRecords size (link.inbound.drop 1 ++ s.arrivals events)).foldl sink s.sink
  /-- A subscribed session comes back from the wait with nothing left. -/
  drained : size < Reader.readLimit → (s.run events).reader.subscribed = true →
    ((s.run events).processEvents (some limit)).2.reader.halted = (s.run events).reader.halted ∧
      ((s.run events).processEvents (some limit)).2.pending = []
  /-- If the daemon has stopped sending by then, the connection is found lost ever after. -/
  lost : size < Reader.readLimit → (s.run events).reader.subscribed = true →
    (s.run events).reader.CutOff → ((s.run events).processEvents (some limit)).2.StaysLost

end Session

namespace Opened

open Session

variable {σ : Type} {offered : Option Link} {s : Session σ} {events : List Event}

theorem intact (opened : Opened offered s) : s.Intact := by
  intro link held
  have connected : s.isConnected = true := by
    rw [Session.isConnected, Reader.isConnected, held, Option.isSome_some]
  obtain ⟨given, -, -, sound, taken⟩ := opened.held connected
  cases held.symm.trans taken
  exact sound

theorem handsOn {link : Link} {size : Nat} {sink : σ → Bytes → σ}
    (opened : Opened (some link) s) (receives : s.ReceivesRecords link events size sink) :
    s.HandsOn size sink ∧ s.pending = link.inbound.drop 1 := by
  obtain ⟨given, offered, -, sound, taken⟩ := opened.held receives.connected
  cases offered
  exact ⟨⟨receives.decoder, _, taken, sound⟩, by simp [Session.pending, Reader.pending, taken]⟩

/-- Whole records are handed on before the connection is found lost. -/
theorem handsAll {link : Link} {size : Nat} {sink : σ → Bytes → σ} (opened : Opened (some link) s)
    (receives : s.ReceivesRecords link events size sink) (limit : Duration) :
    s.HandsAll link events size sink limit := by
  obtain ⟨handsOn, early⟩ := opened.handsOn receives
  have whole : size ∣ s.pending.length := early ▸ receives.early
  have valid : .breakDescriptor ∉ events := fun broken => nomatch receives.via _ broken
  have now := handsOn.run receives.via
  have intact := intact_run opened.intact valid
  have after (bounded : size < Reader.readLimit)
      (subscribed : (s.run events).reader.subscribed = true) :=
    now.drained_processEvents receives.positive bounded
      (handsOn.whole_run receives.positive bounded receives.via whole receives.feeds) subscribed
      limit
  constructor
  · intro disconnected
    have dry := (dry_of_disconnected intact disconnected).1
    rw [← early]
    exact handsOn.sink_of_drained receives.positive receives.via whole receives.feeds dry.2
  · exact after
  · intro bounded subscribed cutOff
    exact staysLost_of_dry
      (intact_step (e := .op (.processEvents (some limit))) intact nofun)
      ⟨cutOff_processEvents cutOff _, (after bounded subscribed).2⟩

/-- As long as the client's descriptor is valid, what waiting for samples for a limited time comes
to depends on whether the session is subscribed, on what is pending, and on whether more can come.
A wait that finds bytes comes back exactly if every read comes back that is made to decode them:
it finds as many bytes as it asks for, or something ends its own wait. A connection that is found
lost is found so ever after, and whole records that the daemon sent before it hung up have been
handed on by then. -/
theorem samples_end (opened : Opened offered s) (valid : .breakDescriptor ∉ events)
    (limit : Duration) :
    (s.run events).DispatchLaw limit ∧
      ((s.run events).pending ≠ [] → (s.run events).AnswersPending) ∧
      (((s.run events).processEvents (some limit)).1 = .disconnected →
        ((s.run events).processEvents (some limit)).2.StaysLost) ∧
      ∀ link size sink, offered = some link → s.ReceivesRecords link events size sink →
        s.HandsAll link events size sink limit := by
  have intact := intact_run opened.intact valid
  refine ⟨(s.run events).dispatchLaw intact limit, answersPending intact, ?_, ?_⟩
  · intro disconnected
    obtain ⟨dry, same⟩ := dry_of_disconnected intact disconnected
    exact staysLost_of_dry (by rwa [Session.Intact, same]) (by rwa [same])
  · rintro link size sink rfl receives
    exact opened.handsAll receives limit

/-- Two records that have come are delivered, though nothing would end a wait for more. A daemon that
sends two records and hangs up while the session is stopped: both are handed on when it is started
again, and only then is the connection found lost. -/
theorem samples_end_restarted :
    let live := (Session.unhurried 4).run [.op .start, .feed [1, 2, 3, 4, 5, 6, 7, 8]]
    let events := [Event.op .start, .op .stop, .feed [1, 2, 3, 4, 5, 6, 7, 8], .hangUp, .op .start,
      .op (.processEvents (some ⟨0⟩))]
    let dead := (Session.acknowledged 4).run events
    (∃ passes, 1 ≤ passes ∧ (live.processEvents (some ⟨0⟩)).1 = .delivered passes ∧
      (live.processEvents (some ⟨0⟩)).2.reader.halted = none) ∧
      dead.sink = [[1, 2, 3, 4], [5, 6, 7, 8]] ∧
      (dead.processEvents (some ⟨0⟩)).1 = .disconnected ∧
      (dead.processEvents (some ⟨0⟩)).2.StaysLost := by
  intro live events dead
  obtain ⟨law, answers, -⟩ := (opened_unhurried 4).samples_end
    (show .breakDescriptor ∉ [Event.op .start, .feed [1, 2, 3, 4, 5, 6, 7, 8]] by decide) ⟨0⟩
  have answered : live.Answered := ((answers (by decide)).records _ 4 _ rfl (by decide)).mpr
    ⟨by decide, fun _ => by decide⟩
  obtain ⟨passes, once, delivered, back, -⟩ := law.delivered rfl (by decide) rfl answered
  have receives : (Session.acknowledged 4).ReceivesRecords (.fresh 0 [6]) events 4
      fun kept record => kept ++ [record] :=
    ⟨rfl, ⟨_, rfl⟩, by decide, by decide, by decide, by simp [events]⟩
  obtain ⟨-, -, staysLost, handsAll⟩ :=
    (opened_acknowledged 4).samples_end (show .breakDescriptor ∉ events by decide) ⟨0⟩
  have lost : (dead.processEvents (some ⟨0⟩)).1 = .disconnected := by decide +kernel
  exact ⟨⟨passes, once, delivered, back⟩,
    ((handsAll _ 4 _ rfl receives).all lost).trans (by decide +kernel), lost, staysLost lost⟩

/-- Half of a record is pending on a connection on which the daemon may go on sending and no read is
limited: a subscribed session that may not wait at all waits for ever. A record that no memory can
hold breaks the session down that looks for it, whatever is pending. -/
theorem torn_record_undelivered :
    let torn := (Session.unhurried 4).run [.op .start, .feed [1, 2]]
    let vast := (Session.acknowledged 18446744073709551615).run
      [.op .start, .feed [1], .shutdown]
    (Opened (some (.fresh 0 [6])) (Session.unhurried 4) ∧ torn.Intact ∧
      torn.reader.subscribed = true ∧ torn.reader.halted = none ∧ torn.pending = [1, 2] ∧
      (torn.processEvents (some ⟨0⟩)).2.reader.halted = some .waiting) ∧
    Opened (some (.fresh 0 [6])) (Session.acknowledged 18446744073709551615) ∧ vast.Intact ∧
      vast.reader.subscribed = true ∧ vast.reader.halted = none ∧ vast.pending = [1] ∧
      (vast.processEvents (some ⟨0⟩)).2.reader.halted = some .oversized := by
  refine ⟨⟨opened_unhurried 4, ?_, rfl, rfl, rfl, by decide +kernel⟩,
    opened_acknowledged _, ?_, rfl, rfl, rfl, by decide +kernel⟩
  · rintro _ ⟨⟩
    rfl
  · rintro _ ⟨⟩
    rfl

end Opened

end SensorClient
