import SensorClient.Proofs.Command.Streaming
import SensorClient.Proofs.Sample.Batches
import SensorClient.Proofs.Session.HangUp

/-!
# Streams that play out

A stream that has no deadline and is not interrupted goes on until it has printed enough or finds
its connection lost. Where the daemon sends whole units, be they records or batches of them, a turn
prints the records of all units that are there and leaves nothing on the connection. The groups in
which the units come therefore make no difference: whatever came in the turns before, the next turn
finds the same connection, and its records are printed after theirs.

## Main definitions

* `Link.Carries`: a sound connection with some bytes on it
* `Session.Listens`, `Session.holding`: a session in its stream, and what changes of it
* `PlaysOut`: the turns of a stream print some records as far as they are asked for
* `Sends`: the daemon sends units in groups and hangs up

## Main results

* `Link.Carries.act`, `Link.Carries.act_over`: what the daemon does to a connection in a turn
* `Session.processEvents_of_units`, `Session.processEvents_of_silence`,
  `Session.processEvents_of_end`: what a wait finds
* `playsOut_of_met`, `playsOut_of_wait`: one turn
* `Sends.playsOut`: the records of all units are printed, in whatever groups they come
-/

namespace SensorClient

/-! ## Printing enough -/

namespace Printer

variable {p : Printer} {out : Printout}

theorem isMet_of_lines {out' : Printout} (same : out'.lines = out.lines) :
    p.isMet out' = p.isMet out := by
  rw [isMet, isMet, Printout.count, Printout.count, same]

/-- Once enough is printed, nothing more is. -/
theorem lines_foldl_of_met (met : p.isMet out = true) (records : List Bytes) :
    (records.foldl p.emit out).lines = out.lines := by
  induction records generalizing out with
  | nil => rfl
  | cons record records ih =>
    have same : (p.emit out record).lines = out.lines := by rw [emit, if_pos met]
    exact (ih ((isMet_of_lines same).trans met)).trans same

end Printer

/-! ## The connection -/

/-- A sound connection with these bytes on it, on which the daemon may send more or has stopped. -/
structure Link.Carries (link : Link) (more : Bool) (bytes : Bytes) : Prop where
  sound : link.broken = false
  client : link.clientOpen = true
  inbound : link.inbound = bytes
  sending : link.sending = more
  daemon : more = true → link.daemonOpen = true

namespace Link.Carries

variable {link : Link} {more : Bool} {bytes : Bytes}

theorem feed (carries : link.Carries true bytes) (arrival : Bytes) :
    (link.feed arrival).2.Carries true (bytes ++ arrival) := by
  unfold Link.feed
  rw [if_neg (by simp [carries.daemon rfl])]
  cases arrival with
  | nil => simpa using carries
  | cons b rest =>
    have there : link.clientGone = false := by simp [clientGone, carries.client, carries.sound]
    rw [if_neg (by simp), if_pos (by simp [carries.sending, there]), carries.inbound]
    exact ⟨carries.sound, carries.client, rfl, carries.sending, carries.daemon⟩

/-- What a daemon that may send does in a turn. -/
theorem act (carries : link.Carries true bytes) (turn : Turn) :
    (turn.act link).Carries (!turn.hangsUp) (bytes ++ turn.arrival) := by
  have fed := carries.feed turn.arrival
  unfold Turn.act
  cases turn.hangsUp with
  | false => exact fed
  | true => exact ⟨fed.sound, fed.client, fed.inbound, rfl, nofun⟩

/-- A daemon that has stopped sending does nothing more that the client could notice. -/
theorem act_over (carries : link.Carries false bytes) (turn : Turn) :
    (turn.act link).Carries false bytes := by
  unfold Turn.act
  rw [feed_of_stopped carries.sending]
  cases turn.hangsUp with
  | false => exact carries
  | true => exact ⟨carries.sound, carries.client, carries.inbound, rfl, nofun⟩

theorem drained (carries : link.Carries more bytes) :
    { link with inbound := [] }.Carries more [] :=
  ⟨carries.sound, carries.client, rfl, carries.sending, carries.daemon⟩

end Link.Carries

/-! ## The waits -/

namespace Session

/-- The session with this connection, and with this printed. -/
def holding (s : Session Printout) (link : Link) (out : Printout) : Session Printout :=
  { s with reader := { s.reader with link := some link }, sink := out }

/-- A session in its stream, which takes its samples with this decoder. -/
structure Listens (s : Session Printout) (decoder : Decoder Printout) : Prop where
  decoder : s.decoder = decoder
  subscribed : s.reader.subscribed = true
  back : s.reader.halted = none

variable {s : Session Printout} {decoder : Decoder Printout} {α : Type} {whole : α → Prop}
  {encode : α → Bytes} {deliver : Printout → α → Printout} {link : Link} {more : Bool}
  {out : Printout}

theorem wait_holding (s : Session Printout) (plan : StreamPlan) (turn : Turn) (link : Link)
    (out : Printout) :
    (s.holding link out).wait plan turn =
      (s.holding (turn.act link) out).processEvents (some plan.poll) := by
  rw [wait, ← onLink_act]
  rfl

/-- Units that are there are delivered, and none of their bytes is left. -/
theorem processEvents_of_units (listens : s.Listens decoder)
    (takes : decoder.Takes whole encode deliver) {units : List α} (some : units ≠ [])
    (all : ∀ unit ∈ units, whole unit) (carries : link.Carries more (units.flatMap encode))
    (limit : Option Duration) :
    (s.holding link out).processEvents limit =
      (.delivered units.length,
        s.holding { link with inbound := [] } (units.foldl deliver out)) := by
  have there : 0 < (s.holding link out).bytesAvailable := by
    refine (Reader.bytesAvailable_pos_iff _).mpr ⟨link, rfl, carries.sound, ?_⟩
    rw [carries.inbound]
    exact takes.flatMap_ne_nil some all
  have drained := decoder.drain_takes takes some all out (r := (s.holding link out).reader) rfl
    carries.sound carries.inbound
  rw [← listens.decoder] at drained
  rw [processEvents_of_pending (s := s.holding link out) listens.subscribed there, dataReceived]
  dsimp only [holding] at drained ⊢
  rw [drained]

/-- Where nothing is there and more may come, a wait changes nothing. -/
theorem processEvents_of_silence (listens : s.Listens decoder) (carries : link.Carries true [])
    (limit : Duration) :
    (s.holding link out).processEvents (some limit) = (.idle, s.holding link out) := by
  refine processEvents_of_quiet (s := s.holding link out) listens.subscribed carries.inbound ?_
    limit
  intro cutOff
  have stopped := carries.sending
  rw [cutOff link rfl] at stopped
  cases stopped

/-- Where nothing is there and nothing more comes, the connection is lost. -/
theorem processEvents_of_end (listens : s.Listens decoder) (carries : link.Carries false [])
    (limit : Option Duration) :
    (s.holding link out).processEvents limit = (.disconnected, (s.holding link out).lose) := by
  refine processEvents_of_dry (s := s.holding link out) ?_ listens.subscribed
    (Reader.dry_iff.mpr ?_) limit
  · rintro held ⟨⟩
    exact carries.sound
  · rintro held ⟨⟩
    exact ⟨carries.sending, carries.inbound⟩

end Session

/-! ## The turns -/

/-- Why a stream ends that is not interrupted and has all the time it needs. -/
def Printer.verdict (p : Printer) (out : Printout) : TurnsEnd :=
  if p.isMet out then .met else .disconnected

/-- The turns of a stream print these records, as many as were asked for, and end when enough are
printed or with the loss of the connection. -/
def PlaysOut (p : Printer) (plan : StreamPlan) (turns : List Turn) (s : Session Printout)
    (records : List Bytes) : Prop :=
  ∃ t, streamTurns p plan.poll plan.limit.isSome turns s =
      (p.verdict (records.foldl p.emit s.sink), t) ∧
    t.sink.lines = (records.foldl p.emit s.sink).lines ∧
    (p.isMet (records.foldl p.emit s.sink) = false → t.error = .lost)

section

variable {s : Session Printout} {decoder : Decoder Printout} {α : Type} {whole : α → Prop}
  {encode : α → Bytes} {records : α → List Bytes} {p : Printer} {plan : StreamPlan} {link : Link}
  {more : Bool} {out : Printout} {turn : Turn} {rest : List Turn} {units : List α}

theorem reason?_of_calm (calm : turn.interrupted = false) (unlimited : plan.limit = none) :
    p.reason? plan out turn = if p.isMet out then some .met else none := by
  simp [Printer.reason?, calm, unlimited]

theorem playsOut_of_met (calm : turn.interrupted = false) (unlimited : plan.limit = none)
    (met : p.isMet s.sink = true) (later : List Bytes) :
    PlaysOut p plan (turn :: rest) s later := by
  -- Whatever is delivered later on, nothing of it is printed.
  have same := Printer.lines_foldl_of_met met later
  have enough := (Printer.isMet_of_lines same).trans met
  refine ⟨s, ?_, same.symm, fun unmet => nomatch enough.symm.trans unmet⟩
  rw [streamTurns_cons, reason?_of_calm calm unlimited, if_pos met, Printer.verdict, if_pos enough]

/-- A turn whose wait finds no reason to end prints what is delivered in it. -/
theorem playsOut_of_wait {first later : List Bytes} (calm : turn.interrupted = false)
    (unlimited : plan.limit = none) (lossless : loss? (s.wait plan turn) = none)
    (printed : (s.wait plan turn).2.sink = first.foldl p.emit s.sink)
    (after : PlaysOut p plan rest (s.wait plan turn).2 later) :
    PlaysOut p plan (turn :: rest) s (first ++ later) := by
  cases met : p.isMet s.sink with
  | true => exact playsOut_of_met calm unlimited met _
  | false =>
    rw [PlaysOut, printed, ← List.foldl_append] at after
    rw [PlaysOut, streamTurns_cons, reason?_of_calm calm unlimited, met, lossless]
    exact after

/-- A turn whose wait finds nothing and the daemon gone ends the stream. -/
theorem playsOut_of_end (listens : s.Listens decoder) (calm : turn.interrupted = false)
    (unlimited : plan.limit = none) (carries : (turn.act link).Carries false []) :
    PlaysOut p plan (turn :: rest) (s.holding link out) [] := by
  cases met : p.isMet (s.holding link out).sink with
  | true => exact playsOut_of_met calm unlimited met _
  | false =>
    have lost := s.wait_holding plan turn link out
    rw [Session.processEvents_of_end listens carries] at lost
    have back : (s.holding (turn.act link) out).lose.reader.halted = none := listens.back
    refine ⟨(s.holding (turn.act link) out).lose, ?_, rfl, fun _ => rfl⟩
    rw [streamTurns_cons, reason?_of_calm calm unlimited, met, lost,
      loss?_eq_disconnected_iff.mpr ⟨back, rfl⟩, List.foldl_nil, Printer.verdict, met]
    rfl

/-- A wait that finds units, or nothing and the daemon there, finds no reason to end; their records
are printed and nothing of them is left. -/
theorem wait_of_units (plan : StreamPlan) (out : Printout) (listens : s.Listens decoder)
    (takes : decoder.Takes whole encode fun out unit => (records unit).foldl p.emit out)
    (carries : (turn.act link).Carries more (units.flatMap encode))
    (all : ∀ unit ∈ units, whole unit) (lasts : units ≠ [] ∨ more = true) :
    loss? ((s.holding link out).wait plan turn) = none ∧
      ∃ link' : Link, link'.Carries more [] ∧ ((s.holding link out).wait plan turn).2 =
        s.holding link' ((units.flatMap records).foldl p.emit out) := by
  rw [Session.wait_holding]
  rcases Decidable.em (units = []) with rfl | some
  · obtain rfl : more = true := lasts.resolve_left fun some => some rfl
    rw [Session.processEvents_of_silence listens carries]
    exact ⟨loss?_eq_none listens.back nofun, _, carries, rfl⟩
  · rw [Session.processEvents_of_units listens takes some all carries, List.foldl_flatMap]
    exact ⟨loss?_eq_none listens.back nofun, _, carries.drained, rfl⟩

/-- A turn with such a wait prints the records of its units, and the turns after it go on. -/
theorem playsOut_of_units (listens : s.Listens decoder)
    (takes : decoder.Takes whole encode fun out unit => (records unit).foldl p.emit out)
    (calm : turn.interrupted = false) (unlimited : plan.limit = none)
    (carries : (turn.act link).Carries more (units.flatMap encode))
    (all : ∀ unit ∈ units, whole unit) (lasts : units ≠ [] ∨ more = true) {later : List Bytes}
    (after : ∀ link' : Link, link'.Carries more [] → ∀ out',
      PlaysOut p plan rest (s.holding link' out') later) :
    PlaysOut p plan (turn :: rest) (s.holding link out) (units.flatMap records ++ later) := by
  obtain ⟨lossless, link', carries', waited⟩ :=
    wait_of_units plan out listens takes carries all lasts
  refine playsOut_of_wait calm unlimited lossless ?_ ?_
  · rw [waited]
    rfl
  · rw [waited]
    exact after link' carries' _

/-- Once the daemon has stopped sending, one turn delivers what is left and the next one finds the
connection lost. -/
theorem playsOut_of_over (listens : s.Listens decoder)
    (takes : decoder.Takes whole encode fun out unit => (records unit).foldl p.emit out)
    {next : Turn} (calm : ∀ turn' ∈ turn :: next :: rest, turn'.interrupted = false)
    (unlimited : plan.limit = none)
    (carries : (turn.act link).Carries false (units.flatMap encode))
    (all : ∀ unit ∈ units, whole unit) :
    PlaysOut p plan (turn :: next :: rest) (s.holding link out) (units.flatMap records) := by
  rw [List.forall_mem_cons, List.forall_mem_cons] at calm
  rcases Decidable.em (units = []) with rfl | some
  · exact playsOut_of_end listens calm.1 unlimited carries
  · rw [← List.append_nil (units.flatMap records)]
    refine playsOut_of_units listens takes calm.1 unlimited carries all (.inl some) ?_
    intro link' carries' out'
    exact playsOut_of_end listens calm.2.1 unlimited (carries'.act_over next)

/-- The daemon sends these groups of units, one group a turn, and hangs up with the last. Another
turn follows, in which the loss of the connection can be found. -/
inductive Sends (encode : α → Bytes) : List (List α) → List Turn → Prop where
  | last {units : List α} {turn next : Turn} {rest : List Turn}
      (arrives : turn.arrival = units.flatMap encode) (hangs : turn.hangsUp = true) :
      Sends encode [units] (turn :: next :: rest)
  | more {units : List α} {groups : List (List α)} {turn : Turn} {turns : List Turn}
      (arrives : turn.arrival = units.flatMap encode) (stays : turn.hangsUp = false)
      (later : Sends encode groups turns) : Sends encode (units :: groups) (turn :: turns)

/-- The records of all units that the daemon sends are printed, in whatever groups it sends them. -/
theorem Sends.playsOut {groups : List (List α)} {turns : List Turn}
    (sends : Sends encode groups turns) (listens : s.Listens decoder)
    (takes : decoder.Takes whole encode fun out unit => (records unit).foldl p.emit out)
    (calm : ∀ turn ∈ turns, turn.interrupted = false) (unlimited : plan.limit = none)
    (before : List α) (carries : link.Carries true (before.flatMap encode))
    (all : ∀ unit ∈ before ++ groups.flatten, whole unit) :
    PlaysOut p plan turns (s.holding link out) ((before ++ groups.flatten).flatMap records) := by
  -- Nothing is left after a turn, so each group meets the same connection as the first.
  induction sends generalizing link out before with
  | @last units turn next rest arrives hangs =>
    have acted := carries.act turn
    rw [hangs, arrives, ← List.flatMap_append] at acted
    rw [List.flatten_singleton] at all ⊢
    exact playsOut_of_over listens takes calm unlimited acted all
  | @more units groups turn turns arrives stays later ih =>
    rw [List.forall_mem_cons] at calm
    rw [List.flatten_cons, ← List.append_assoc, List.forall_mem_append] at all
    have acted := carries.act turn
    rw [stays, arrives, ← List.flatMap_append] at acted
    rw [List.flatten_cons, ← List.append_assoc, List.flatMap_append]
    refine playsOut_of_units listens takes calm.1 unlimited acted all.1 (.inr rfl) ?_
    intro link' carries' out'
    exact ih calm.2 [] carries' all.2

end

end SensorClient
