import SensorClient.Proofs.Command.PlayingOut
import SensorClient.Sample.Daemon

/-!
# Streams of batches and of single records

The same records can be sent in batches or one by one, and a stream is told which to expect. What it
prints and how it ends does not depend on that, nor on how the batches or the records are grouped
into arrivals: a batch of no records takes bytes and prints nothing, and enough records may be
printed in the middle of a batch. A batch is read at once, so its bytes have to fit into some
memory; then each of its records does.

## Main definitions

* `Host.Delivers`: the daemon acknowledges the client, sends units in groups and hangs up
* `Printer.ending`: how a stream ends that has printed what it could
* `Streams`: a stream that begins, and then goes on undisturbed

## Main results

* `listens_of_started`: the session that a stream begins with
* `Host.Delivers.playsOut`, `streamStarted_of_playsOut`: what the stream prints and how it ends
* `Streams.shows`: what the command prints and how it ends follows from the records alone
* `batches_stream_as_records`: a stream of batches is one of their records
-/

namespace SensorClient

/-! ## The units of a stream -/

namespace Printer

theorem takes_flat (p : Printer) (interface : String) (positive : 0 < p.layout.size) :
    (p.decoder interface false).Takes (IsRecord p.layout.size) id
      fun out record => [record].foldl p.emit out :=
  Decoder.takes_fixed interface positive p.emit

theorem takes_batched (p : Printer) (interface : String) :
    (p.decoder interface true).Takes (IsBatch p.layout.size) Bytes.ofBatch
      fun out records => records.foldl p.emit out :=
  Decoder.takes_batch interface p.layout.size _

end Printer

/-! ## The beginning -/

theorem Reader.connect_halted (r : Reader) (id : Int32)
    (listening : String → Except SystemError Link) :
    (r.connect id listening).2.halted = r.halted := by
  unfold connect adopt
  repeat' split
  all_goals rfl

/-- Options change nothing of a session but the conversation, what is wanted and the local error. -/
theorem Session.configured_snd {σ : Type} (s : Session σ) (o : StreamOptions) :
    ∃ talk desired error, s.configured o = { s with talk, desired, error } := by
  rw [configured_eq_run]
  refine run_induction (A := fun e => e ∈ o.settings)
    (P := fun t => ∃ talk desired error, t = { s with talk, desired, error }) ?_
    (fun _ mem => mem) ⟨_, _, _, rfl⟩
  rintro - e mem ⟨talk, desired, error, rfl⟩
  -- A setting is sent or not, depending on whether the session runs; nothing else depends on that.
  simp only [StreamOptions.settings, List.mem_append, Option.mem_toList,
    Option.map_eq_some_iff] at mem
  rcases mem with (((⟨n, -, rfl⟩ | ⟨n, -, rfl⟩) | ⟨n, -, rfl⟩) | mem) | ⟨n, -, rfl⟩
  · change ∃ _ _ _, setInterval _ n = _
    unfold setInterval
    dsimp only
    split <;> exact ⟨_, _, _, rfl⟩
  · change ∃ _ _ _, setBufferInterval _ n = _
    unfold setBufferInterval
    dsimp only
    split <;> exact ⟨_, _, _, rfl⟩
  · change ∃ _ _ _, setBufferSize _ n = _
    unfold setBufferSize
    dsimp only
    split <;> exact ⟨_, _, _, rfl⟩
  · obtain rfl : e = .op (.setStandbyOverride true) := by
      split at mem
      · exact List.mem_singleton.mp mem
      · cases mem
    exact ⟨_, _, _, rfl⟩
  · change ∃ _ _ _, (setDataRangeIndex _ n).2 = _
    rw [setDataRangeIndex_snd]
    exact ⟨_, _, _, rfl⟩

section

variable {host : Host} {service : Service} {sensor : String} {decoder : Decoder Printout}
  {s : Session Printout} {link : Link}

/-- A session that is connected after it was opened holds the connection that the daemon gave it,
and no read of it has failed to come back. -/
theorem held_openSession (opened : openSession host service sensor decoder .empty = .ok s)
    (connected : s.isConnected = true) :
    s.reader.halted = none ∧ ∃ link, host.listening service.socket.path = .ok link ∧
      link.broken = false ∧ s.reader.link = some { link with
        inbound := link.inbound.drop 1, outbound := link.outbound ++ Bytes.ofInt32 s.id
        readTimeout := service.socket.readTimeout, writeTimeout := none } := by
  obtain ⟨-, -, -, reader⟩ := begins_openSession opened
  rw [Session.isConnected, reader] at connected
  obtain ⟨link, -, valid, held, -, reached⟩ := Reader.idle_connect_held connected
  rw [reader]
  exact ⟨Reader.connect_halted _ s.id host.listening, link, listening_of_reach reached, valid, held⟩

/-- A start that takes effect after the options changes nothing of a session but the conversation,
what is wanted, the local error, the running flag and the subscription. -/
theorem started_snd (o : StreamOptions) (stopped : s.running = false) :
    ∃ talk desired error, (s.configured o).start.2 =
      { s with talk, desired, error, running := true, reader := s.reader.subscribe } := by
  obtain ⟨talk, desired, error, configured⟩ := s.configured_snd o
  have running : (s.configured o).running = false := by rw [configured, stopped]
  have started := (s.configured o).startWith_snd (s.configured o).id running
  rw [configured] at started
  rw [Session.start, configured, started]
  exact ⟨_, _, _, rfl⟩

/-- The session that a stream begins with listens on the connection that the daemon gave it, and
nothing is printed yet. -/
theorem listens_of_started (o : StreamOptions)
    (opened : openSession host service sensor decoder .empty = .ok s)
    (connected : s.isConnected = true) (reached : host.listening service.socket.path = .ok link) :
    (s.configured o).start.2.Listens decoder ∧ ∃ outbound readTimeout,
      (s.configured o).start.2 = (s.configured o).start.2.holding
        { link with inbound := link.inbound.drop 1, outbound, readTimeout, writeTimeout := none }
        .empty := by
  obtain ⟨empty, decodes, stopped, -⟩ := begins_openSession opened
  obtain ⟨back, given, offered, -, held⟩ := held_openSession opened connected
  cases reached.symm.trans offered
  -- The options leave the connection alone, and the start subscribes to it.
  obtain ⟨talk, desired, error, started⟩ := started_snd o stopped
  rw [started]
  refine ⟨⟨decodes, rfl, back⟩, link.outbound ++ Bytes.ofInt32 s.id, service.socket.readTimeout, ?_⟩
  rw [Session.holding, ← held, ← empty]
  rfl

variable {α : Type} {whole : α → Prop} {encode : α → Bytes} {records : α → List Bytes}
  {groups : List (List α)} {p : Printer} {plan : StreamPlan}

/-- The daemon at this path acknowledges whoever connects, sends these groups of units, the first
one with its acknowledgement and then one a turn, and hangs up with the last. -/
inductive Host.Delivers (host : Host) (path : String) (encode : α → Bytes) :
    List (List α) → Prop where
  | atOnce {serial : Nat} {ack : UInt8} {units : List α} {turn next : Turn} {rest : List Turn}
      (accepts : host.listening path =
        .ok ((Daemon.acknowledging ack (units.flatMap encode) true).accept serial))
      (waits : host.turns = turn :: next :: rest) : host.Delivers path encode [units]
  | later {serial : Nat} {ack : UInt8} {units : List α} {groups : List (List α)}
      (accepts : host.listening path =
        .ok ((Daemon.acknowledging ack (units.flatMap encode) false).accept serial))
      (sends : Sends encode groups host.turns) : host.Delivers path encode (units :: groups)

/-- The stream prints the records of all units, in whatever groups they come. -/
theorem Host.Delivers.playsOut (delivers : host.Delivers service.socket.path encode groups)
    (o : StreamOptions) (opened : openSession host service sensor decoder .empty = .ok s)
    (connected : s.isConnected = true)
    (takes : decoder.Takes whole encode fun out unit => (records unit).foldl p.emit out)
    (calm : ∀ turn ∈ host.turns, turn.interrupted = false) (unlimited : plan.limit = none)
    (all : ∀ unit ∈ groups.flatten, whole unit) :
    (s.configured o).start.2.sink = .empty ∧
      PlaysOut p plan host.turns (s.configured o).start.2 (groups.flatten.flatMap records) := by
  cases delivers with
  | @atOnce serial ack units turn next rest accepts waits =>
    obtain ⟨listens, outbound, readTimeout, began⟩ := listens_of_started o opened connected accepts
    rw [List.flatten_singleton] at all ⊢
    rw [waits] at calm ⊢
    rw [began]
    refine ⟨rfl, playsOut_of_over listens takes calm unlimited (Link.Carries.act_over ?_ turn) all⟩
    exact ⟨rfl, rfl, rfl, rfl, nofun⟩
  | @later serial ack units groups accepts sends =>
    obtain ⟨listens, outbound, readTimeout, began⟩ := listens_of_started o opened connected accepts
    rw [began]
    refine ⟨rfl, sends.playsOut listens takes calm unlimited units ?_ all⟩
    exact ⟨rfl, rfl, rfl, rfl, fun _ => rfl⟩

end

/-! ## The end -/

/-- How a command ends whose stream has printed this and then lost its connection, unless it has
printed enough. -/
def Printer.ending (p : Printer) (out : Printout) : Ending :=
  if p.isMet out then .exit .success
  else .failure ⟨.transportError, "sample stream ended: Socket connection lost."⟩

theorem Session.errorString_of_lost {s : Session Printout} (lost : s.error = .lost) :
    s.errorString = ("Socket connection lost.", s) := by
  rw [errorString, lost]
  rfl

theorem streamStarted_of_playsOut {host : Host} {p : Printer} {plan : StreamPlan}
    {s : Session Printout} {records : List Bytes} (unlimited : plan.limit = none)
    (plays : PlaysOut p plan host.turns s records) :
    (streamStarted host p plan s).1 = p.ending (records.foldl p.emit s.sink) ∧
      (streamStarted host p plan s).2.sink.lines = (records.foldl p.emit s.sink).lines := by
  obtain ⟨t, ended, printed, lost⟩ := plays
  have fits : plan.fits host = true := by simp [StreamPlan.fits, unlimited]
  have ends := endsBy_streamTurns p plan host.turns s
  rw [ended] at ends
  rw [streamStarted_of_fits fits ends, ← printed]
  unfold Printer.verdict Printer.ending
  cases met : p.isMet (records.foldl p.emit s.sink) with
  | true => exact ⟨rfl, congrArg Printout.lines t.sink_stop_close⟩
  | false =>
    simp only [Bool.false_eq_true, if_false, TurnsEnd.conclude, t.errorString_of_lost (lost met)]
    exact ⟨rfl, congrArg Printout.lines t.sink_stop_close⟩

/-! ## The command -/

theorem StreamOptions.of_plan? {o : StreamOptions} {location : Location} {sensor : Sensor}
    {plan : StreamPlan} (planned : o.plan? location sensor = .ok plan) :
    0 < o.layout.size ∧ (o.timeout = none → plan.limit = none) := by
  simp only [plan?, bind, Except.bind] at planned
  repeat' split at planned
  all_goals cases planned
  all_goals exact ⟨Nat.pos_of_ne_zero ‹_›, fun untimed => by simp_all⟩

/-- A stream that gets its session and its connection and is started, that has no deadline and that
nobody interrupts, where the daemon sends these groups of units and hangs up. -/
structure Streams {α : Type} (host : Host) (format : Format) (location : Location)
    (sensor : Sensor) (o : StreamOptions) (plan : StreamPlan) (encode : α → Bytes)
    (groups : List (List α)) : Prop where
  planned : o.plan? location sensor = .ok plan
  untimed : o.timeout = none
  begins : o.begins host format sensor plan = true
  interruptible : host.interrupts = .ok ()
  calm : ∀ turn ∈ host.turns, turn.interrupted = false
  delivers : host.Delivers plan.service.socket.path encode groups

section

variable {α : Type} {host : Host} {format : Format} {location : Location} {sensor : Sensor}
  {o : StreamOptions} {plan : StreamPlan} {encode : α → Bytes} {groups : List (List α)}

/-- What such a stream prints and how it ends follows from the records that the daemon sends. -/
theorem Streams.shows {whole : α → Prop} (records : α → List Bytes)
    (streams : Streams host format location sensor o plan encode groups)
    (takes : ((o.printer sensor format).decoder plan.interface o.batch).Takes whole encode
      fun out unit => (records unit).foldl (o.printer sensor format).emit out)
    (all : ∀ unit ∈ groups.flatten, whole unit) :
    let printed := (groups.flatten.flatMap records).foldl (o.printer sensor format).emit .empty
    (runStream host format location sensor o).output = printed.output ∧
      (runStream host format location sensor o).ending =
        (o.printer sensor format).ending printed := by
  obtain ⟨s, opened, connected, started⟩ := StreamOptions.exists_of_begins streams.begins
  have unlimited := (StreamOptions.of_plan? streams.planned).2 streams.untimed
  obtain ⟨empty, plays⟩ := streams.delivers.playsOut o opened connected takes streams.calm
    unlimited all
  obtain ⟨ending, lines⟩ := streamStarted_of_playsOut unlimited plays
  rw [empty] at ending lines
  rw [runStream_eq streams.planned opened, streamSession_eq connected streams.interruptible started]
  exact ⟨congrArg List.flatten lines, ending⟩

end

/-- A stream of batches prints the same lines and ends in the same way as a stream of the same
records one by one, in whatever groups either of them arrives. The lines are those of the first
records, as many as were asked for, numbered from zero; the stream fails with the loss of its
connection if there are not so many. -/
theorem batches_stream_as_records {batched flat : Host} {format : Format} {location : Location}
    {sensor : Sensor} {o : StreamOptions} {plan : StreamPlan} {batches : List (List (List Bytes))}
    {arrivals : List (List Bytes)}
    (inBatches : Streams batched format location sensor { o with batch := true } plan Bytes.ofBatch
      batches)
    (alone : Streams flat format location sensor { o with batch := false } plan id arrivals)
    (whole : ∀ batch ∈ batches.flatten, IsBatch o.layout.size batch)
    (same : arrivals.flatten = batches.flatten.flatten) :
    let p := o.printer sensor format
    let inBatches := runStream batched format location sensor { o with batch := true }
    let alone := runStream flat format location sensor { o with batch := false }
    ∃ lines : List Bytes, lines.map some = (p.shown arrivals.flatten).mapIdx p.line? ∧
      inBatches.output = lines.flatten ∧ alone.output = lines.flatten ∧
      inBatches.ending = alone.ending ∧
      alone.ending = if o.count.any fun count => count ≤ arrivals.flatten.length
        then .exit .success
        else .failure ⟨.transportError, "sample stream ended: Socket connection lost."⟩ := by
  intro p
  dsimp only
  have positive : 0 < p.layout.size := (StreamOptions.of_plan? alone.planned).1
  have records : ∀ record ∈ arrivals.flatten, IsRecord p.layout.size record := by
    rw [same]
    intro record mem
    obtain ⟨batch, sent, mem⟩ := List.mem_flatten.mp mem
    exact (whole batch sent).isRecord mem
  -- Either stream shows what the printer makes of its units, and these are the same records.
  obtain ⟨output, ending⟩ := inBatches.shows id (p.takes_batched plan.interface) whole
  obtain ⟨output', ending'⟩ :=
    alone.shows (fun record => [record]) (p.takes_flat plan.interface positive) records
  rw [List.flatMap_id, ← same] at output ending
  rw [List.flatMap_singleton'] at output' ending'
  have prints : p.Prints (arrivals.flatten.foldl p.emit .empty) :=
    p.prints_empty.foldl fun record mem => (records record mem).1
  have delivered : (arrivals.flatten.foldl p.emit .empty).delivered = arrivals.flatten :=
    p.delivered_foldl .empty arrivals.flatten
  have lines := prints.lines
  have met := prints.isMet
  rw [delivered] at lines met
  have ends : p.ending (arrivals.flatten.foldl p.emit .empty) =
      if o.count.any fun count => count ≤ arrivals.flatten.length then .exit .success
      else .failure ⟨.transportError, "sample stream ended: Socket connection lost."⟩ := by
    rw [Printer.ending, met]
    rfl
  exact ⟨_, lines, output, output', ending.trans ending'.symm, ending'.trans ends⟩

/-! ## Enough in the middle of a batch -/

/-- A host that lets every session have these bytes with its acknowledgement, and what comes in
these turns. -/
def Host.sending (early : Bytes) (turns : List Turn) : Host :=
  { Host.lending fun _ => true with
    listening := fun _ => .ok ((Daemon.acknowledging 6 early false).accept 0), turns }

/-- A daemon that sends an empty batch and then one of three records. -/
def Host.batching : Host :=
  .sending (Bytes.ofBatch [])
    [⟨false, false, Bytes.ofBatch [[1, 2], [3, 4], [5, 6]], true⟩, .quiet]

/-- A daemon that sends those records in two arrivals. -/
def Host.recording : Host :=
  .sending [] [⟨false, false, [1, 2], false⟩, ⟨false, false, [3, 4, 5, 6], true⟩, .quiet]

/-- A stream of two records of two bytes. -/
def StreamOptions.pair : StreamOptions :=
  { StreamOptions.single "5s" with layout := .bytes 2, count := some 2, timeout := none }

/-- Two of the three records are printed either way. -/
theorem batches_stream_as_records_pair :
    let inBatches := runStream .batching .raw .sampling ⟨"alssensor", none⟩
      { StreamOptions.pair with batch := true }
    let alone := runStream .recording .raw .sampling ⟨"alssensor", none⟩
      { StreamOptions.pair with batch := false }
    ∃ lines : List Bytes, lines.length = 2 ∧ inBatches.output = lines.flatten ∧
      alone.output = lines.flatten ∧ inBatches.ending = .exit .success ∧
      alone.ending = .exit .success := by
  have ready : (StreamOptions.pair.plan? .sampling ⟨"alssensor", none⟩).toOption.any (fun plan =>
      { StreamOptions.pair with batch := true }.begins .batching .raw ⟨"alssensor", none⟩ plan &&
      { StreamOptions.pair with batch := false }.begins .recording .raw ⟨"alssensor", none⟩ plan) =
      true := by
    decide +kernel
  obtain ⟨plan, planned, begins⟩ := exists_ok_of_any ready
  obtain ⟨batched, flat⟩ := Bool.and_eq_true_iff.mp begins
  have inBatches : Streams .batching .raw .sampling ⟨"alssensor", none⟩
      { StreamOptions.pair with batch := true } plan Bytes.ofBatch
      [[[]], [[[1, 2], [3, 4], [5, 6]]]] :=
    ⟨planned, rfl, batched, rfl, by decide, .later rfl (.last rfl rfl)⟩
  have alone : Streams .recording .raw .sampling ⟨"alssensor", none⟩
      { StreamOptions.pair with batch := false } plan id [[], [[1, 2]], [[3, 4], [5, 6]]] :=
    ⟨planned, rfl, flat, rfl, by decide, .later rfl (.more rfl rfl (.last rfl rfl))⟩
  have whole : ∀ batch ∈ ([[[]], [[[1, 2], [3, 4], [5, 6]]]] : List (List (List Bytes))).flatten,
      IsBatch 2 batch := by
    rintro batch (_ | ⟨_, _ | ⟨_, ⟨⟩⟩⟩)
    · exact ⟨by decide, by decide, by decide⟩
    · exact ⟨by decide, by decide, by decide⟩
  obtain ⟨lines, numbered, output, output', same, ending⟩ :=
    batches_stream_as_records inBatches alone whole rfl
  have count := congrArg List.length numbered
  rw [List.length_map] at count
  exact ⟨lines, count, output, output', same.trans ending, ending⟩

end SensorClient
