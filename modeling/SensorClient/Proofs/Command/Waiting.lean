import SensorClient.Proofs.Command.Batching
import SensorClient.Proofs.Session.Promptness

/-!
# Streams that wait for the rest of a unit

A stream is told how long it may take, and how long each of its waits may. Both limit the wait for a
first byte only: the service is configured without a limit to reads. So a wait that finds a part of a
unit, be it a record, the number of a batch or the batch, goes on until the daemon sends the rest or
hangs up. Meanwhile the stream sees neither that its time is up nor that it is interrupted.

## Main definitions

* `Session.Streaming`: a session in a stream, whose reads are not limited
* `StreamWaits`: what the waits of a stream come to, and when the stream never ends

## Main results

* `streaming_of_started`: a stream begins with such a session
* `endless_streamStarted_iff`: a stream never ends exactly if a wait does not, or if no turn gives a
  reason to end
* `reads_wait_for_units`: dispatches and streams wait for whole units
-/

namespace SensorClient

/-! ## Sessions in a stream -/

/-- A session in a stream, which hears of samples on a sound connection and takes them with this
decoder, with no limit to its reads. -/
structure Session.Streaming (s : Session Printout) (decoder : Decoder Printout) : Prop where
  decoder : s.decoder = decoder
  subscribed : s.reader.subscribed = true
  sound : s.reader.Sound
  unlimited : s.reader.readTimeout? = some none

namespace Session.Streaming

variable {s t : Session Printout} {decoder : Decoder Printout} {e : Event} {events : List Event}

theorem step (streaming : s.Streaming decoder) (streams : e.streams = true) :
    (s.step e).Streaming decoder where
  decoder := (s.decoder_step e).trans streaming.decoder
  subscribed := by
    cases e with
    | op op =>
      have effect := s.perform_effect op
      have running : (s.perform op).2.running = s.running := by
        rw [effect.running]
        cases op <;> first | rfl | cases streams
      exact (effect.subscribed.trans (if_pos running)).trans streaming.subscribed
    | _ => exact streaming.subscribed
  sound := sound_step streaming.sound (by rintro rfl; cases streams)
  unlimited := (s.readTimeout?_step e).trans streaming.unlimited

theorem run (streaming : s.Streaming decoder) (streams : ∀ e ∈ events, e.streams = true) :
    (s.run events).Streaming decoder :=
  run_induction (A := fun e => e.streams = true) (P := fun t => t.Streaming decoder)
    (fun _ _ streams streaming => streaming.step streams) streams streaming

end Session.Streaming

theorem Turn.streams_events (turn : Turn) : ∀ e ∈ turn.events, e.streams = true := by
  unfold Turn.events
  split <;> simp [Event.streams]

section

variable {p : Printer} {plan : StreamPlan} {s u : Session Printout} {turn : Turn}
  {turns gone : List Turn} {decoder : Decoder Printout}

/-- Every read of a stream that goes on has come back. -/
theorem Reaches.returned (reaches : Reaches p plan s turns turn u)
    (returned : s.reader.halted = none) : u.reader.halted = none := by
  obtain ⟨gone, later, -, goes, rfl⟩ := reaches
  induction gone generalizing s with
  | nil => exact returned
  | cons turn gone ih =>
    obtain ⟨-, lossless, goes⟩ := goes
    refine ih ?_ goes
    -- A read that did not come back would have been found as a loss.
    unfold loss? at lossless
    split at lossless
    · cases lossless
    · next back => exact back

/-- At the beginning of each turn, and when the daemon has done in it what it does, the session is
still one in a stream. -/
theorem Reaches.streaming (reaches : Reaches p plan s turns turn u)
    (streaming : s.Streaming decoder) : (u.run turn.events).Streaming decoder := by
  obtain ⟨events, streams, rfl⟩ := reaches.streamsTo
  exact (streaming.run streams).run turn.streams_events

end

/-! ## The beginning -/

theorem Location.readTimeout_of_service? {location : Location} {service : Service}
    (found : location.service? = .ok service) : service.socket.readTimeout = none := by
  simp only [service?, bind, Except.bind] at found
  split at found
  · cases found
  · cases found
    rfl

/-- The service that a stream is opened on does not limit reads. -/
theorem StreamOptions.readTimeout_of_plan? {o : StreamOptions} {location : Location}
    {sensor : Sensor} {plan : StreamPlan} (planned : o.plan? location sensor = .ok plan) :
    plan.service.socket.readTimeout = none := by
  simp only [plan?, bind, Except.bind] at planned
  repeat' split at planned
  all_goals cases planned
  all_goals exact Location.readTimeout_of_service? ‹_›

/-- A stream begins with a session whose reads are not limited, and have all come back. -/
theorem streaming_of_started {host : Host} {service : Service} {sensor : String}
    {decoder : Decoder Printout} {s : Session Printout} (o : StreamOptions)
    (opened : openSession host service sensor decoder .empty = .ok s)
    (connected : s.isConnected = true) (unlimited : service.socket.readTimeout = none) :
    (s.configured o).start.2.Streaming decoder ∧ (s.configured o).start.2.reader.halted = none := by
  obtain ⟨-, decodes, stopped, -⟩ := begins_openSession opened
  obtain ⟨back, link, -, valid, held⟩ := held_openSession opened connected
  have patience : s.reader.readTimeout? = some none := by
    simp [Reader.readTimeout?, held, unlimited]
  obtain ⟨talk, desired, error, started⟩ := started_snd o stopped
  rw [started]
  exact ⟨⟨decodes, rfl, ⟨_, held, valid⟩, patience⟩, back⟩

/-! ## The end -/

section

variable {host : Host} {p : Printer} {plan : StreamPlan} {s : Session Printout}

/-- A stream never ends exactly if a wait does not, or if no turn gives a reason to end. -/
theorem endless_streamStarted_iff (fits : plan.fits host = true) :
    (streamStarted host p plan s).1 = .endless ↔
      (∃ turn u, Reaches p plan s host.turns turn u ∧ p.reason? plan u.sink turn = none ∧
        (u.wait plan turn).2.reader.halted = some .waiting) ∨
      GoesThrough p plan host.turns s := by
  constructor
  · intro endless
    have ends := endsBy_streamTurns p plan host.turns s
    rw [streamStarted_of_fits fits ends] at endless
    generalize streamTurns p plan.poll plan.limit.isSome host.turns s = result at ends endless
    obtain ⟨reason, t⟩ := result
    cases ends with
    | never goes => exact .inr goes
    | before reaches found =>
      -- Whatever is found at the beginning of a turn brings the command to its end.
      rcases reason?_cases found with rfl | rfl | rfl
      · cases endless
      · cases endless
      · obtain ⟨-, unmet, -⟩ := reason?_eq_expired_iff.mp found
        change deadlineEnding t.sink.count p.limit = .endless at endless
        rcases deadlineEnding_of_unmet unmet with ⟨-, ending⟩ | ⟨_, _, -, -, ending⟩
        · cases ending.symm.trans endless
        · cases ending.symm.trans endless
    | within reaches silent found =>
      rcases loss?_cases found with rfl | ⟨_ | _, rfl⟩
      · cases endless
      · exact .inl ⟨_, _, reaches, silent, loss?_eq_halted_iff.mp found⟩
      · cases endless
  · rintro (⟨turn, u, reaches, silent, halted⟩ | goes)
    · rw [streamStarted_of_fits fits (.within reaches silent (loss?_eq_halted_iff.mpr halted))]
      rfl
    · rw [streamStarted_of_fits fits (.never goes)]
      rfl

/-- What the waits of a stream come to that has begun with the session `s`, and when the command
never ends. -/
structure StreamWaits (host : Host) (p : Printer) (plan : StreamPlan) (batch : Bool)
    (s : Session Printout) (ending : Ending) : Prop where
  /-- A wait that finds nothing comes back. -/
  quiet : ∀ turn u, Reaches p plan s host.turns turn u → (u.run turn.events).pending = [] →
    (u.wait plan turn).2.reader.halted = none
  /-- A wait that finds bytes reads single records or batches of them, and nothing limits its reads
  but what memory can hold. -/
  reads : ∀ turn u, Reaches p plan s host.turns turn u → (u.run turn.events).pending ≠ [] →
    (u.run turn.events).decoder = p.decoder plan.interface batch ∧
      (Decoder.maxBatchRecords * p.layout.size < Reader.readLimit →
        (u.run turn.events).decoder.Modest) ∧
      (u.run turn.events).DispatchReads (some plan.poll)
  /-- If a wait does not come back, no later turn can end the stream, be it interrupted or its time
  up. -/
  endless : ending = .endless ↔
    (∃ turn u, Reaches p plan s host.turns turn u ∧ p.reason? plan u.sink turn = none ∧
      (u.wait plan turn).2.reader.halted = some .waiting) ∨
    GoesThrough p plan host.turns s

theorem Printer.modest_decoder (p : Printer) (interface : String) (batch : Bool)
    (bounded : Decoder.maxBatchRecords * p.layout.size < Reader.readLimit) :
    (p.decoder interface batch).Modest := by
  cases batch with
  | true => exact Decoder.modest_batch bounded
  | false =>
    refine Decoder.modest_fixed (Nat.lt_of_le_of_lt ?_ bounded)
    exact Nat.le_mul_of_pos_left p.layout.size (by decide)

theorem streamWaits_streamStarted {batch : Bool} (fits : plan.fits host = true)
    (streaming : s.Streaming (p.decoder plan.interface batch)) (returned : s.reader.halted = none) :
    StreamWaits host p plan batch s (streamStarted host p plan s).1 where
  quiet := by
    intro turn u reaches drained
    have now := reaches.streaming streaming
    have kept := Session.reader_processEvents_of_drained (Session.intact_of_sound now.sound)
      now.subscribed drained plan.poll
    rw [Session.wait, kept, ← Session.onLink_act]
    exact reaches.returned returned
  reads := by
    intro turn u reaches pending
    have now := reaches.streaming streaming
    have back : (u.run turn.events).reader.halted = none := by
      rw [← Session.onLink_act]
      exact reaches.returned returned
    exact ⟨now.decoder, fun bounded => now.decoder ▸ p.modest_decoder plan.interface batch bounded,
      Session.dispatchReads now.sound now.unlimited now.subscribed back pending⟩
  endless := endless_streamStarted_iff fits

end

/-! ## Dispatches and streams -/

/-- A dispatch of a running session that is connected and configured without a limit to its reads,
and that finds bytes, comes back exactly if every read finds as many bytes as it asks for: that is,
if whole units are pending, however they have come. The limit of the dispatch plays no part in that,
and neither does the time of a stream, which is such a session: a stream in which a wait finds a part
of a unit never ends, whatever comes later, unless the daemon sends the rest or hangs up. -/
theorem reads_wait_for_units (host : Host) (format : Format) (location : Location) (sensor : Sensor)
    (o : StreamOptions) :
    (∀ {σ : Type} {offered : Option Link} {s : Session σ} {events : List Event},
      Opened offered s → s.isConnected = true → s.reader.config.readTimeout = none →
      .breakDescriptor ∉ events → (s.run events).running = true →
      (s.run events).reader.halted = none → (s.run events).pending ≠ [] →
      ∀ limit, (s.run events).DispatchReads limit) ∧
    ∀ {plan : StreamPlan} {s : Session Printout}, o.plan? location sensor = .ok plan →
      openSession host plan.service sensor.name
        ((o.printer sensor format).decoder plan.interface o.batch) .empty = .ok s →
      s.isConnected = true → host.interrupts = .ok () → (s.configured o).start.1 = .ok () →
      plan.fits host = true →
      StreamWaits host (o.printer sensor format) plan o.batch (s.configured o).start.2
        (runStream host format location sensor o).ending := by
  refine ⟨fun opened connected unlimited valid running returned pending limit =>
    opened.dispatchReads connected unlimited valid running returned pending limit, ?_⟩
  intro plan s planned opened connected interrupts started fits
  obtain ⟨streaming, returned⟩ :=
    streaming_of_started o opened connected (StreamOptions.readTimeout_of_plan? planned)
  rw [runStream_eq planned opened, streamSession_eq connected interrupts started]
  exact streamWaits_streamStarted fits streaming returned

/-- A daemon that sends this in the first turn of a stream and nothing more. In the second turn the
time of the stream is up, and it is interrupted. -/
def Host.stopping (arrival : Bytes) : Host :=
  .sending [] [⟨false, false, arrival, false⟩, ⟨true, true, [], false⟩]

/-- A stream of one record of four bytes, within some time, from such a daemon. -/
def streamStopping (arrival : Bytes) : Execution :=
  runStream (.stopping arrival) .raw .sampling ⟨"alssensor", none⟩ (.single "5s")

/-- A dispatch that finds two whole records comes back. A stream that finds half of one never ends,
because it waits for the rest. -/
theorem reads_wait_for_units_half :
    ((((Session.unhurried 4).run [.op .start, .feed [1, 2, 3, 4, 5, 6, 7, 8]]).processEvents
      (some ⟨0⟩)).2.reader.halted = none) ∧
    (streamStopping [1, 2]).ending = .endless ∧
      ∃ plan s turn u, Reaches ((StreamOptions.single "5s").printer ⟨"alssensor", none⟩ .raw) plan s
        (Host.stopping [1, 2]).turns turn u ∧
          (u.wait plan turn).2.reader.halted = some .waiting := by
  obtain ⟨dispatches, streams⟩ :=
    reads_wait_for_units (.stopping [1, 2]) .raw .sampling ⟨"alssensor", none⟩ (.single "5s")
  refine ⟨?_, ?_⟩
  · have valid : .breakDescriptor ∉ [Event.op .start, .feed [1, 2, 3, 4, 5, 6, 7, 8]] := by decide
    have law := dispatches (opened_unhurried 4) rfl rfl valid rfl rfl (by decide) (some ⟨0⟩)
    have prompt := (law.records _ 4 _ rfl (by decide)).mpr ⟨by decide, by decide⟩
    exact (law.back (by simp [Reader.CutOff]; decide)).mpr prompt
  · have ready : ((StreamOptions.single "5s").plan? .sampling ⟨"alssensor", none⟩).toOption.any
        (fun plan => (StreamOptions.single "5s").begins (.stopping [1, 2]) .raw ⟨"alssensor", none⟩
          plan && plan.fits (.stopping [1, 2])) = true := by
      decide +kernel
    have endless : (streamStopping [1, 2]).ending = .endless := by decide +kernel
    obtain ⟨plan, planned, begins⟩ := exists_ok_of_any ready
    obtain ⟨begins, fits⟩ := Bool.and_eq_true_iff.mp begins
    obtain ⟨s, opened, connected, started⟩ := StreamOptions.exists_of_begins begins
    have waits := streams planned opened connected rfl started fits
    rcases waits.endless.mp endless with ⟨turn, u, reaches, -, halted⟩ | ⟨-, -, silent, -⟩
    · exact ⟨endless, plan, _, turn, u, reaches, halted⟩
    · -- The second turn would have ended the stream.
      simp [Printer.reason?] at silent

/-- A dispatch that may not wait at all finds half of a record, asks for all of it, and waits for
ever. A stream of one record prints it, finds the beginning of another, and waits for the rest of
that, with enough printed, its time up, and interrupted. -/
theorem torn_record_waits :
    let s := (Session.unhurried 4).run [.op .start, .feed [1, 2]]
    s.running = true ∧ s.isConnected = true ∧ s.reader.config.readTimeout = none ∧
      s.pending = [1, 2] ∧ ¬ s.Prompt ∧
      (s.processEvents (some ⟨0⟩)).2.reader.halted = some .waiting ∧
      (streamStopping [1, 2, 3, 4, 5]).output ≠ [] ∧
      (streamStopping [1, 2, 3, 4, 5]).ending = .endless := by
  refine ⟨rfl, rfl, rfl, rfl, ?_, by decide +kernel, by decide +kernel, by decide +kernel⟩
  intro prompt
  obtain ⟨-, even⟩ := (Decoder.prompt_fixed_iff _ _ (by decide) rfl rfl (by decide)).mp prompt
  exact absurd even (by decide)

end SensorClient
