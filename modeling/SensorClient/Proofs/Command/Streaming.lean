import SensorClient.Proofs.Command.HandBack
import SensorClient.Proofs.Command.Printing

/-!
# How a stream ends

A stream looks for a reason to end before every wait for samples, and finds one in the wait if the
connection is lost or a read never comes back. Which reason it finds first decides how the command
ends. After the last wait the session is stopped, and only then handed back; where the command
breaks down it is handed back without a stop.

## Main definitions

* `Printer.reason?`, `Session.wait`, `loss?`: what is found before a wait, the wait, and what is
  found in it
* `Reaches`: a stream gets to the beginning of a turn
* `EndsBy`: why and with what session the turns end
* `Session.StreamsTo`: the turns of a stream lead from one session to the other
* `StreamPlan.fits`: the end of a stream can be told on the clock
* `Conclusion`, `Concludes`: how a stream that was started ends, by the reason found first, and what
  follows from each ending
* `StreamOptions.begins`: whether a stream gets as far as its turns

## Main results

* `endsBy_streamTurns`, `EndsBy.streamTurns_eq`: the turns end in exactly one way
* `Session.StreamsTo.kept`, `Session.StreamsTo.asked`: what the turns leave alone and what they ask
* `conclusion_streamStarted`, `concludes_streamStarted`: a stream that was started ends in one of
  the ways of a `Conclusion`, and its ending tells in which
* `stream_concludes`: the command prints the first records delivered, and ends as its stream does
-/

namespace SensorClient

/-! ## The turns of a stream -/

/-- The reason to end a stream that is found at the beginning of a turn. -/
def Printer.reason? (p : Printer) (plan : StreamPlan) (out : Printout) (turn : Turn) :
    Option TurnsEnd :=
  if turn.interrupted then some .interrupted
  else if p.isMet out then some .met
  else if plan.limit.isSome && turn.expired then some .expired
  else none

/-- The wait of a turn: the daemon does what it does, and what has come is decoded. -/
def Session.wait (s : Session Printout) (plan : StreamPlan) (turn : Turn) :
    Dispatch × Session Printout :=
  (s.run turn.events).processEvents (some plan.poll)

/-- The reason to end a stream that is found in a wait. -/
def loss? (waited : Dispatch × Session Printout) : Option TurnsEnd :=
  match waited.2.reader.halted with
  | some halt => some (.halted halt)
  | none => if waited.1 = .disconnected then some .disconnected else none

/-- The session after turns. -/
def Session.after (s : Session Printout) (plan : StreamPlan) (turns : List Turn) :
    Session Printout :=
  turns.foldl (fun s turn => (s.wait plan turn).2) s

/-- A stream goes through turns without finding a reason to end. -/
def GoesThrough (p : Printer) (plan : StreamPlan) : List Turn → Session Printout → Prop
  | [], _ => True
  | turn :: rest, s =>
    p.reason? plan s.sink turn = none ∧ loss? (s.wait plan turn) = none ∧
      GoesThrough p plan rest (s.wait plan turn).2

/-- A stream gets to the beginning of a turn, and has this session there. -/
def Reaches (p : Printer) (plan : StreamPlan) (s : Session Printout) (turns : List Turn)
    (turn : Turn) (t : Session Printout) : Prop :=
  ∃ gone later, turns = gone ++ turn :: later ∧ GoesThrough p plan gone s ∧ t = s.after plan gone

/-- Why the turns of a stream end, and the session then. -/
inductive EndsBy (p : Printer) (plan : StreamPlan) (s : Session Printout) (turns : List Turn) :
    TurnsEnd → Session Printout → Prop
  /-- A reason is found at the beginning of a turn. -/
  | before {turn : Turn} {t : Session Printout} {reason : TurnsEnd}
      (reaches : Reaches p plan s turns turn t) (found : p.reason? plan t.sink turn = some reason) :
      EndsBy p plan s turns reason t
  /-- A reason is found in a wait. -/
  | within {turn : Turn} {t : Session Printout} {reason : TurnsEnd}
      (reaches : Reaches p plan s turns turn t) (silent : p.reason? plan t.sink turn = none)
      (found : loss? (t.wait plan turn) = some reason) :
      EndsBy p plan s turns reason (t.wait plan turn).2
  /-- No reason is found. -/
  | never (goes : GoesThrough p plan turns s) :
      EndsBy p plan s turns .unfinished (s.after plan turns)

variable {p : Printer} {plan : StreamPlan} {s t u : Session Printout} {turn : Turn}
  {turns gone : List Turn} {reason : TurnsEnd}

/-- One turn, and the turns after it. -/
theorem streamTurns_cons (p : Printer) (plan : StreamPlan) (turn : Turn) (rest : List Turn)
    (s : Session Printout) :
    streamTurns p plan.poll plan.limit.isSome (turn :: rest) s =
      match p.reason? plan s.sink turn with
      | some reason => (reason, s)
      | none =>
        match loss? (s.wait plan turn) with
        | some reason => (reason, (s.wait plan turn).2)
        | none => streamTurns p plan.poll plan.limit.isSome rest (s.wait plan turn).2 := by
  have acted : { s with reader := s.reader.onLink turn.act } = s.run turn.events :=
    s.onLink_act turn
  -- The loop tests for the reasons in the order in which `reason?` and `loss?` look for them.
  rw [streamTurns, acted, ← Session.wait]
  unfold Printer.reason? loss?
  split
  · rfl
  · split
    · rfl
    · split
      · rfl
      · dsimp only
        cases (s.wait plan turn).2.reader.halted with
        | some halt => rfl
        | none =>
          dsimp only
          split <;> rfl

theorem streamTurns_append (later : List Turn) (goes : GoesThrough p plan gone s) :
    streamTurns p plan.poll plan.limit.isSome (gone ++ later) s =
      streamTurns p plan.poll plan.limit.isSome later (s.after plan gone) := by
  induction gone generalizing s with
  | nil => rfl
  | cons turn gone ih =>
    obtain ⟨silent, lossless, goes⟩ := goes
    rw [List.cons_append, streamTurns_cons, silent, lossless]
    exact ih goes

theorem Reaches.here (rest : List Turn) : Reaches p plan s (turn :: rest) turn s :=
  ⟨[], rest, rfl, trivial, rfl⟩

theorem Reaches.there {next : Turn} (silent : p.reason? plan s.sink next = none)
    (lossless : loss? (s.wait plan next) = none)
    (reaches : Reaches p plan (s.wait plan next).2 turns turn t) :
    Reaches p plan s (next :: turns) turn t := by
  obtain ⟨gone, later, rfl, goes, rfl⟩ := reaches
  exact ⟨next :: gone, later, rfl, ⟨silent, lossless, goes⟩, rfl⟩

/-- The turns of a stream end in one of these ways. -/
theorem endsBy_streamTurns (p : Printer) (plan : StreamPlan) (turns : List Turn)
    (s : Session Printout) :
    EndsBy p plan s turns (streamTurns p plan.poll plan.limit.isSome turns s).1
      (streamTurns p plan.poll plan.limit.isSome turns s).2 := by
  -- What ends the turns after the first ends them all, with one more turn gone through.
  induction turns generalizing s with
  | nil => exact .never trivial
  | cons turn rest ih =>
    rw [streamTurns_cons]
    cases found : p.reason? plan s.sink turn with
    | some reason => exact .before (.here rest) found
    | none =>
      cases lost : loss? (s.wait plan turn) with
      | some reason => exact .within (.here rest) found lost
      | none =>
        have ends := ih (s.wait plan turn).2
        dsimp only
        generalize streamTurns p plan.poll plan.limit.isSome rest (s.wait plan turn).2 = result
          at ends ⊢
        obtain ⟨reason, u⟩ := result
        cases ends with
        | before reaches found' => exact .before (.there found lost reaches) found'
        | within reaches silent found' => exact .within (.there found lost reaches) silent found'
        | never goes => exact .never ⟨found, lost, goes⟩

/-- And in no other. -/
theorem EndsBy.streamTurns_eq (ends : EndsBy p plan s turns reason t) :
    streamTurns p plan.poll plan.limit.isSome turns s = (reason, t) := by
  cases ends with
  | before reaches found =>
    obtain ⟨gone, later, rfl, goes, rfl⟩ := reaches
    rw [streamTurns_append _ goes, streamTurns_cons, found]
  | within reaches silent found =>
    obtain ⟨gone, later, rfl, goes, rfl⟩ := reaches
    rw [streamTurns_append _ goes, streamTurns_cons, silent, found]
  | never goes =>
    have all := streamTurns_append [] goes
    rwa [List.append_nil, streamTurns] at all

/-! ## The reasons to end -/

theorem reason?_eq_interrupted_iff {out : Printout} :
    p.reason? plan out turn = some .interrupted ↔ turn.interrupted = true := by
  unfold Printer.reason?
  cases turn.interrupted <;> cases p.isMet out <;> cases plan.limit.isSome && turn.expired <;> simp

theorem reason?_eq_met_iff {out : Printout} :
    p.reason? plan out turn = some .met ↔ turn.interrupted = false ∧ p.isMet out = true := by
  unfold Printer.reason?
  cases turn.interrupted <;> cases p.isMet out <;> cases plan.limit.isSome && turn.expired <;> simp

theorem reason?_eq_expired_iff {out : Printout} :
    p.reason? plan out turn = some .expired ↔
      turn.interrupted = false ∧ p.isMet out = false ∧ plan.limit.isSome = true ∧
        turn.expired = true := by
  unfold Printer.reason?
  cases turn.interrupted <;> cases p.isMet out <;> cases plan.limit.isSome <;>
    cases turn.expired <;> simp

/-- Only these reasons are found at the beginning of a turn. -/
theorem reason?_cases {out : Printout} (found : p.reason? plan out turn = some reason) :
    reason = .interrupted ∨ reason = .met ∨ reason = .expired := by
  unfold Printer.reason? at found
  repeat' split at found
  all_goals simp_all

theorem loss?_eq_disconnected_iff {waited : Dispatch × Session Printout} :
    loss? waited = some .disconnected ↔
      waited.2.reader.halted = none ∧ waited.1 = .disconnected := by
  unfold loss?
  split <;> simp_all

theorem loss?_eq_halted_iff {waited : Dispatch × Session Printout} {halt : Halt} :
    loss? waited = some (.halted halt) ↔ waited.2.reader.halted = some halt := by
  unfold loss?
  split <;> simp_all

theorem loss?_eq_none {waited : Dispatch × Session Printout}
    (back : waited.2.reader.halted = none) (kept : waited.1 ≠ .disconnected) :
    loss? waited = none := by
  rw [loss?, back]
  exact if_neg kept

/-- Only these reasons are found in a wait. -/
theorem loss?_cases {waited : Dispatch × Session Printout} (found : loss? waited = some reason) :
    reason = .disconnected ∨ ∃ halt, reason = .halted halt := by
  unfold loss? at found
  split at found
  · exact .inr ⟨_, (Option.some.inj found).symm⟩
  · split at found
    · exact .inl (Option.some.inj found).symm
    · cases found

/-! ## What the turns ask -/

/-- What happens to a session in the turns of a stream. -/
def Event.streams : Event → Bool
  | .feed _ | .hangUp | .op (.processEvents _) | .op .errorString => true
  | _ => false

/-- The turns of a stream lead from one session to the other. -/
def Session.StreamsTo (s t : Session Printout) : Prop :=
  ∃ events, (∀ e ∈ events, e.streams = true) ∧ t = s.run events

namespace Session.StreamsTo

theorem refl (s : Session Printout) : s.StreamsTo s := ⟨[], List.forall_mem_nil _, rfl⟩

theorem trans (first : s.StreamsTo t) (then' : t.StreamsTo u) : s.StreamsTo u := by
  obtain ⟨before, all, rfl⟩ := first
  obtain ⟨after, all', rfl⟩ := then'
  exact ⟨before ++ after, List.forall_mem_append.mpr ⟨all, all'⟩, (s.run_append before after).symm⟩

theorem wait (s : Session Printout) (plan : StreamPlan) (turn : Turn) :
    s.StreamsTo (s.wait plan turn).2 := by
  refine ⟨turn.events ++ [.op (.processEvents (some plan.poll))], ?_, ?_⟩
  · unfold Turn.events
    split <;> simp [Event.streams]
  · rw [Session.run_append]
    rfl

theorem after (s : Session Printout) (plan : StreamPlan) (turns : List Turn) :
    s.StreamsTo (s.after plan turns) := by
  induction turns generalizing s with
  | nil => exact refl s
  | cons turn turns ih => exact (wait s plan turn).trans (ih _)

theorem errorString (s : Session Printout) : s.StreamsTo s.errorString.2 :=
  ⟨[.op .errorString], by decide, rfl⟩

theorem leadsTo (streams : s.StreamsTo t) : s.LeadsTo t := by
  obtain ⟨events, all, rfl⟩ := streams
  exact ⟨events, fun release => absurd (all _ release) (by decide), rfl⟩

/-- The turns leave the running flag and the number of a session alone. -/
theorem kept (streams : s.StreamsTo t) : t.running = s.running ∧ t.id = s.id := by
  obtain ⟨events, all, rfl⟩ := streams
  refine Session.run_induction (A := fun e => e.streams = true)
    (P := fun t => t.running = s.running ∧ t.id = s.id) ?_ all ⟨rfl, rfl⟩
  rintro t e streams ⟨running, id⟩
  refine ⟨?_, (t.id_step e).trans id⟩
  rw [t.running_step]
  cases e with
  | op op => cases op <;> first | exact running | simp [Event.streams] at streams
  | _ => exact running

/-- The turns ask for the text of the daemon's error at most. -/
theorem asked (streams : s.StreamsTo t) :
    ∃ asked, (∀ request ∈ asked, request = .property "errorString") ∧
      t.talk = s.talk.after asked := by
  obtain ⟨events, all, rfl⟩ := streams
  refine Session.run_induction (A := fun e => e.streams = true)
    (P := fun t => ∃ asked, (∀ request ∈ asked, request = .property "errorString") ∧
      t.talk = s.talk.after asked) ?_ all ⟨[], List.forall_mem_nil _, s.talk.after_nil.symm⟩
  rintro t e streams ⟨asked, errors, talk⟩
  refine ⟨asked ++ t.requestsOn e, List.forall_mem_append.mpr ⟨errors, ?_⟩, ?_⟩
  · cases e with
    | op op =>
      cases op with
      | errorString =>
        dsimp only [Session.requestsOn, Session.requests]
        split <;> simp
      | processEvents limit => exact List.forall_mem_nil _
      | _ => simp [Event.streams] at streams
    | _ => exact List.forall_mem_nil _
  · rw [t.talk_step, talk, Conversation.after_after]

end Session.StreamsTo

theorem Reaches.streamsTo (reaches : Reaches p plan s turns turn t) : s.StreamsTo t := by
  obtain ⟨gone, later, -, -, rfl⟩ := reaches
  exact .after s plan gone

theorem EndsBy.streamsTo (ends : EndsBy p plan s turns reason t) : s.StreamsTo t := by
  cases ends with
  | before reaches found => exact reaches.streamsTo
  | within reaches silent found => exact reaches.streamsTo.trans (.wait _ plan _)
  | never goes => exact .after s plan turns

/-! ## How the command ends -/

/-- Whether the time that a stream may take can be told on the clock. -/
def StreamPlan.fits (plan : StreamPlan) (host : Host) : Bool :=
  !plan.limit.any (overflowsClock host.clock)

/-- How the command ends when the turns of its stream have ended for a reason, and the session
then. -/
def TurnsEnd.conclude (p : Printer) (t : Session Printout) : TurnsEnd → Ending × Session Printout
  | .interrupted | .met => (.exit .success, t.stop.2.close)
  | .expired => (deadlineEnding t.sink.count p.limit, t.stop.2.close)
  | .disconnected =>
    (.failure ⟨.transportError, s!"sample stream ended: {t.errorString.1}"⟩,
      t.errorString.2.stop.2.close)
  | .halted .oversized => (.breakdown, t.close)
  | .halted .waiting | .unfinished => (.endless, t)

theorem streamStarted_of_fits {host : Host} (fits : plan.fits host = true)
    (ends : EndsBy p plan s host.turns reason t) :
    streamStarted host p plan s = reason.conclude p t := by
  rw [StreamPlan.fits, Bool.not_eq_true'] at fits
  rw [streamStarted, if_neg (by simp [fits]), ends.streamTurns_eq]
  cases reason with
  | halted halt => cases halt <;> rfl
  | _ => rfl

theorem streamStarted_of_not_fits {host : Host} (overflows : plan.fits host = false) :
    streamStarted host p plan s = (.breakdown, s.close) := by
  rw [StreamPlan.fits, Bool.not_eq_false'] at overflows
  rw [streamStarted, if_pos overflows]

/-- How a stream that was started with the session `s` ends, and with which session `t`. -/
structure Concludes (host : Host) (p : Printer) (plan : StreamPlan) (s : Session Printout)
    (ending : Ending) (t : Session Printout) : Prop where
  /-- It is a success if it is interrupted, if enough is printed, or if its time is up and nobody
  said how much is enough. -/
  success : ending = .exit .success ↔ plan.fits host = true ∧
    ∃ turn u, Reaches p plan s host.turns turn u ∧
      (turn.interrupted = true ∨ p.isMet u.sink = true ∨
        plan.limit.isSome = true ∧ turn.expired = true ∧ p.limit = none)
  /-- Its time is up too early if fewer records are printed than were asked for. -/
  timeout : (∃ text, ending = .failure ⟨.timeout, text⟩) ↔ plan.fits host = true ∧
    ∃ turn u count, Reaches p plan s host.turns turn u ∧ turn.interrupted = false ∧
      plan.limit.isSome = true ∧ turn.expired = true ∧ p.limit = some count ∧ u.sink.count < count
  /-- It fails if a wait finds the connection lost; nothing waits once enough is printed. -/
  lost : (∃ text, ending = .failure ⟨.transportError, text⟩) ↔ plan.fits host = true ∧
    ∃ turn u, Reaches p plan s host.turns turn u ∧ p.reason? plan u.sink turn = none ∧
      (u.wait plan turn).2.reader.halted = none ∧ (u.wait plan turn).1 = .disconnected
  /-- It breaks down if its end cannot be told on the clock, or in a read of more than any memory
  can hold. -/
  breakdown : ending = .breakdown ↔ plan.fits host = false ∨
    ∃ turn u, Reaches p plan s host.turns turn u ∧ p.reason? plan u.sink turn = none ∧
      (u.wait plan turn).2.reader.halted = some .oversized
  /-- Once enough is printed nothing more is delivered, whether the time is up or not, and whatever
  the daemon does. -/
  met : plan.fits host = true → ∀ turn u, Reaches p plan s host.turns turn u →
    p.isMet u.sink = true → ending = .exit .success ∧ t.sink = u.sink
  /-- The session is stopped after the last wait, and not handed back before that. -/
  stopped : ending ≠ .breakdown → ending ≠ .endless → ∃ u, s.StreamsTo u ∧ t = u.stop.2.close ∧
    (∀ request ∈ u.talk.log, request.inquiry.calls "releaseSensor" = false) ∧
    u.stop.2.talk.log = u.talk.log ++ Request.stop s.id ∧
    t.talk.log = u.stop.2.talk.log ++ if u.isValid then u.stop.2.releaseRequests else []
  /-- Where the command breaks down, it is handed back without a stop. -/
  unstopped : ending = .breakdown → ∃ u, s.StreamsTo u ∧ t = u.close ∧
    t.talk.log = u.talk.log ++ if u.isValid then u.releaseRequests else []

/-! ### The ends of the turns, one by one -/

/-- If not enough is printed when the time is up, that is a failure only if somebody said how much
is enough. -/
theorem deadlineEnding_of_unmet {out : Printout} (unmet : p.isMet out = false) :
    p.limit = none ∧ deadlineEnding out.count p.limit = .exit .success ∨
      ∃ count text, p.limit = some count ∧ out.count < count ∧
        deadlineEnding out.count p.limit = .failure ⟨.timeout, text⟩ := by
  cases limited : p.limit with
  | none => exact .inl ⟨rfl, rfl⟩
  | some count =>
    have few : out.count < count := by simpa [Printer.isMet, limited] using unmet
    exact .inr ⟨count, _, rfl, few, if_pos few⟩

section

variable {host : Host} {aim : Aim}

/-- Nothing has been handed back while a session is commanded. -/
theorem Commanded.unreleased (commanded : Commanded host aim s) :
    ∀ request ∈ s.talk.log, request.inquiry.calls "releaseSensor" = false := by
  obtain ⟨asked, minor, talk⟩ := commanded.talk
  rw [talk]
  rintro request (_ | ⟨_, _ | ⟨_, later⟩⟩)
  · rfl
  · rfl
  · exact (Request.isMinor_iff.mp (minor request later)).2.2

/-- The ways in which a stream that was started with the session `s` comes to its end, each with the
session that is left. -/
inductive Conclusion (host : Host) (p : Printer) (plan : StreamPlan) (s : Session Printout) :
    Ending → Session Printout → Prop
  | overflow (overflows : plan.fits host = false) : Conclusion host p plan s .breakdown s.close
  | enough {turn : Turn} {u : Session Printout} (fits : plan.fits host = true)
      (reaches : Reaches p plan s host.turns turn u)
      (why : turn.interrupted = true ∨ p.isMet u.sink = true ∨
        plan.limit.isSome = true ∧ turn.expired = true ∧ p.limit = none) :
      Conclusion host p plan s (.exit .success) u.stop.2.close
  | late {turn : Turn} {u : Session Printout} {count : Nat} (text : String)
      (fits : plan.fits host = true) (reaches : Reaches p plan s host.turns turn u)
      (free : turn.interrupted = false) (timed : plan.limit.isSome = true)
      (expired : turn.expired = true) (limited : p.limit = some count)
      (few : u.sink.count < count) :
      Conclusion host p plan s (.failure ⟨.timeout, text⟩) u.stop.2.close
  | lost {turn : Turn} {u : Session Printout} (text : String) (fits : plan.fits host = true)
      (reaches : Reaches p plan s host.turns turn u)
      (silent : p.reason? plan u.sink turn = none)
      (back : (u.wait plan turn).2.reader.halted = none)
      (disconnected : (u.wait plan turn).1 = .disconnected) :
      Conclusion host p plan s (.failure ⟨.transportError, text⟩)
        (u.wait plan turn).2.errorString.2.stop.2.close
  | oversized {turn : Turn} {u : Session Printout} (fits : plan.fits host = true)
      (reaches : Reaches p plan s host.turns turn u)
      (silent : p.reason? plan u.sink turn = none)
      (halted : (u.wait plan turn).2.reader.halted = some .oversized) :
      Conclusion host p plan s .breakdown (u.wait plan turn).2.close
  | endless {u : Session Printout} (streams : s.StreamsTo u) : Conclusion host p plan s .endless u

/-- A stream that was started comes to its end in one of these ways. -/
theorem conclusion_streamStarted {ending : Ending}
    (came : streamStarted host p plan s = (ending, t)) : Conclusion host p plan s ending t := by
  obtain ⟨rfl, rfl⟩ := Prod.ext_iff.mp came
  cases fits : plan.fits host with
  | false =>
    rw [streamStarted_of_not_fits fits]
    exact .overflow fits
  | true =>
    have ends := endsBy_streamTurns p plan host.turns s
    rw [streamStarted_of_fits fits ends]
    generalize streamTurns p plan.poll plan.limit.isSome host.turns s = result at ends ⊢
    obtain ⟨reason, u⟩ := result
    cases ends with
    | never goes => exact .endless (.after s plan host.turns)
    | before reaches found =>
      rcases reason?_cases found with rfl | rfl | rfl
      · exact .enough fits reaches (.inl (reason?_eq_interrupted_iff.mp found))
      · exact .enough fits reaches (.inr (.inl (reason?_eq_met_iff.mp found).2))
      · obtain ⟨free, unmet, timed, expired⟩ := reason?_eq_expired_iff.mp found
        dsimp only [TurnsEnd.conclude]
        rcases deadlineEnding_of_unmet unmet with
          ⟨unlimited, ending⟩ | ⟨count, text, limited, few, ending⟩
        · rw [ending]
          exact .enough fits reaches (.inr (.inr ⟨timed, expired, unlimited⟩))
        · rw [ending]
          exact .late text fits reaches free timed expired limited few
    | within reaches silent found =>
      rcases loss?_cases found with rfl | ⟨halt, rfl⟩
      · obtain ⟨back, disconnected⟩ := loss?_eq_disconnected_iff.mp found
        exact .lost _ fits reaches silent back disconnected
      · cases halt with
        | oversized => exact .oversized fits reaches silent (loss?_eq_halted_iff.mp found)
        | waiting => exact .endless (EndsBy.within reaches silent found).streamsTo

/-- The session that is stopped in the end has come through the turns, and after a lost connection
through the question for the daemon's error. -/
theorem Conclusion.stops {ending : Ending} (conclusion : Conclusion host p plan s ending t)
    (whole : ending ≠ .breakdown) (ends : ending ≠ .endless) :
    ∃ u, s.StreamsTo u ∧ t = u.stop.2.close := by
  cases conclusion with
  | overflow | oversized => exact absurd rfl whole
  | endless => exact absurd rfl ends
  | enough fits reaches | late text fits reaches => exact ⟨_, reaches.streamsTo, rfl⟩
  | lost text fits reaches =>
    exact ⟨_, (reaches.streamsTo.trans (.wait _ plan _)).trans (.errorString _), rfl⟩

theorem Conclusion.breaksDown (conclusion : Conclusion host p plan s .breakdown t) :
    ∃ u, s.StreamsTo u ∧ t = u.close := by
  cases conclusion with
  | overflow => exact ⟨s, .refl s, rfl⟩
  | oversized fits reaches => exact ⟨_, reaches.streamsTo.trans (.wait _ plan _), rfl⟩

/-- A session in its stream has not been handed back; when it is stopped and then closed, the calls
of the stop are made, and it is handed back after them. -/
theorem Commanded.log_stop_close (commanded : Commanded host aim s) (running : s.running = true)
    (streams : s.StreamsTo u) :
    (∀ request ∈ u.talk.log, request.inquiry.calls "releaseSensor" = false) ∧
      u.stop.2.talk.log = u.talk.log ++ Request.stop s.id ∧
      u.stop.2.close.talk.log =
        u.stop.2.talk.log ++ if u.isValid then u.stop.2.releaseRequests else [] := by
  have now := commanded.leadsTo streams.leadsTo
  have stopped := now.leadsTo (.perform u .stop nofun)
  -- Whether the channel can be reached was settled when the session was opened.
  have valid : u.stop.2.isValid = u.isValid := stopped.isValid.trans now.isValid.symm
  refine ⟨now.unreleased, ?_, ?_⟩
  · rw [Session.stop, u.talk_stopWith, streams.kept.1, running, if_pos rfl, streams.kept.2,
      Conversation.log_after]
  · rw [u.stop.2.talk_close stopped.held, valid, Conversation.log_after]

theorem Session.sink_close {σ : Type} (s : Session σ) : s.close.sink = s.sink := by
  have released : s.release.2.sink = s.sink := ((s.perform_effect .release).samples rfl).1
  unfold close
  dsimp only
  split <;> split
  · exact released
  · exact released
  · rfl
  · rfl

theorem Session.sink_stop_close {σ : Type} (s : Session σ) : s.stop.2.close.sink = s.sink :=
  s.stop.2.sink_close.trans ((s.perform_effect .stop).samples rfl).1

/-! ### The other way about -/

theorem streamStarted_of_enough (fits : plan.fits host = true)
    (reaches : Reaches p plan s host.turns turn u)
    (why : turn.interrupted = true ∨ p.isMet u.sink = true ∨
      plan.limit.isSome = true ∧ turn.expired = true ∧ p.limit = none) :
    streamStarted host p plan s = (.exit .success, u.stop.2.close) := by
  cases free : turn.interrupted with
  | true =>
    have found : p.reason? plan u.sink turn = some .interrupted :=
      reason?_eq_interrupted_iff.mpr free
    rw [streamStarted_of_fits fits (.before reaches found), TurnsEnd.conclude]
  | false =>
    cases met : p.isMet u.sink with
    | true =>
      have found : p.reason? plan u.sink turn = some .met := reason?_eq_met_iff.mpr ⟨free, met⟩
      rw [streamStarted_of_fits fits (.before reaches found), TurnsEnd.conclude]
    | false =>
      obtain ⟨timed, expired, unlimited⟩ : plan.limit.isSome = true ∧ turn.expired = true ∧
          p.limit = none := by simpa [free, met] using why
      have found := reason?_eq_expired_iff.mpr ⟨free, met, timed, expired⟩
      rw [streamStarted_of_fits fits (.before reaches found), TurnsEnd.conclude, unlimited]
      rfl

theorem streamStarted_of_late {count : Nat} (fits : plan.fits host = true)
    (reaches : Reaches p plan s host.turns turn u) (free : turn.interrupted = false)
    (timed : plan.limit.isSome = true) (expired : turn.expired = true)
    (limited : p.limit = some count) (few : u.sink.count < count) :
    ∃ text, (streamStarted host p plan s).1 = .failure ⟨.timeout, text⟩ := by
  have unmet : p.isMet u.sink = false := by simpa [Printer.isMet, limited] using few
  have found := reason?_eq_expired_iff.mpr ⟨free, unmet, timed, expired⟩
  rw [streamStarted_of_fits fits (.before reaches found), TurnsEnd.conclude, limited]
  exact ⟨_, if_pos few⟩

theorem streamStarted_of_lost (fits : plan.fits host = true)
    (reaches : Reaches p plan s host.turns turn u) (silent : p.reason? plan u.sink turn = none)
    (back : (u.wait plan turn).2.reader.halted = none)
    (disconnected : (u.wait plan turn).1 = .disconnected) :
    ∃ text, (streamStarted host p plan s).1 = .failure ⟨.transportError, text⟩ := by
  have found := loss?_eq_disconnected_iff.mpr ⟨back, disconnected⟩
  rw [streamStarted_of_fits fits (.within reaches silent found)]
  exact ⟨_, rfl⟩

theorem streamStarted_of_oversized (fits : plan.fits host = true)
    (reaches : Reaches p plan s host.turns turn u) (silent : p.reason? plan u.sink turn = none)
    (halted : (u.wait plan turn).2.reader.halted = some .oversized) :
    (streamStarted host p plan s).1 = .breakdown := by
  rw [streamStarted_of_fits fits (.within reaches silent (loss?_eq_halted_iff.mpr halted))]
  rfl

/-- How a stream that was started comes to its end. -/
theorem concludes_streamStarted {ending : Ending} (commanded : Commanded host aim s)
    (running : s.running = true) (came : streamStarted host p plan s = (ending, t)) :
    Concludes host p plan s ending t where
  success := by
    constructor
    · rintro rfl
      cases conclusion_streamStarted came with
      | enough fits reaches why => exact ⟨fits, _, _, reaches, why⟩
    · rintro ⟨fits, turn, u, reaches, why⟩
      exact congrArg Prod.fst (came.symm.trans (streamStarted_of_enough fits reaches why))
  timeout := by
    constructor
    · rintro ⟨text, rfl⟩
      cases conclusion_streamStarted came with
      | late text fits reaches free timed expired limited few =>
        exact ⟨fits, _, _, _, reaches, free, timed, expired, limited, few⟩
    · rintro ⟨fits, turn, u, count, reaches, free, timed, expired, limited, few⟩
      have late := streamStarted_of_late fits reaches free timed expired limited few
      rwa [came] at late
  lost := by
    constructor
    · rintro ⟨text, rfl⟩
      cases conclusion_streamStarted came with
      | lost text fits reaches silent back disconnected =>
        exact ⟨fits, _, _, reaches, silent, back, disconnected⟩
    · rintro ⟨fits, turn, u, reaches, silent, back, disconnected⟩
      have lost := streamStarted_of_lost fits reaches silent back disconnected
      rwa [came] at lost
  breakdown := by
    constructor
    · rintro rfl
      cases conclusion_streamStarted came with
      | overflow overflows => exact .inl overflows
      | oversized fits reaches silent halted => exact .inr ⟨_, _, reaches, silent, halted⟩
    · rintro (overflows | ⟨turn, u, reaches, silent, halted⟩)
      · exact congrArg Prod.fst (came.symm.trans (streamStarted_of_not_fits overflows))
      · -- A stream that does not fit breaks down as well, before any turn.
        cases fits : plan.fits host with
        | false => exact congrArg Prod.fst (came.symm.trans (streamStarted_of_not_fits fits))
        | true =>
          have oversized := streamStarted_of_oversized fits reaches silent halted
          rwa [came] at oversized
  met := by
    intro fits turn u reaches met
    cases came.symm.trans (streamStarted_of_enough fits reaches (.inr (.inl met)))
    exact ⟨rfl, u.sink_stop_close⟩
  stopped := by
    intro whole ends
    obtain ⟨u, streams, rfl⟩ := (conclusion_streamStarted came).stops whole ends
    exact ⟨u, streams, rfl, commanded.log_stop_close running streams⟩
  unstopped := by
    rintro rfl
    obtain ⟨u, streams, rfl⟩ := (conclusion_streamStarted came).breaksDown
    refine ⟨u, streams, rfl, ?_⟩
    rw [u.talk_close (commanded.leadsTo streams.leadsTo).held, Conversation.log_after]

end

/-! ## The command -/

/-- How the records of a stream are printed. -/
def StreamOptions.printer (o : StreamOptions) (sensor : Sensor) (format : Format) : Printer :=
  ⟨sensor.name, o.layout, o.count, format⟩

/-- A session that is opened is at its beginning, and has tried to connect. -/
theorem begins_openSession {σ : Type} {host : Host} {service : Service} {sensor : String}
    {decoder : Decoder σ} {sink : σ} {s : Session σ}
    (opened : openSession host service sensor decoder sink = .ok s) :
    s.sink = sink ∧ s.decoder = decoder ∧ s.running = false ∧
      s.reader = ((Reader.idle service.socket).connect s.id host.listening).2 := by
  unfold openSession at opened
  split at opened
  · cases opened
  · simp only [Session.overPath, Session.assemble_eq, Except.ok.injEq] at opened
    subst opened
    exact ⟨rfl, rfl, rfl, rfl⟩

/-- Whatever becomes of a session, what is printed is what is delivered. -/
theorem prints_streamSession {host : Host} {o : StreamOptions} {interface : String} {batch : Bool}
    (decoder : s.decoder = p.decoder interface batch) (empty : s.sink = .empty) :
    p.Prints (streamSession host o p plan s).2.sink := by
  have keeps : s.decoder.Keeps p.Prints := decoder ▸ p.keeps_prints interface batch
  have prints (t : Session Printout) (reached : s.LeadsTo t) : p.Prints t.sink := by
    obtain ⟨events, -, rfl⟩ := reached
    exact keeps.run (empty ▸ p.prints_empty) events
  rcases streamSession_closes host o plan s with ⟨-, reached⟩ | ⟨t, reached, closed⟩
  · exact prints _ reached
  · rw [closed, t.sink_close]
    exact prints t reached

/-- A session that is connected and whose start is answered well is left to its stream. -/
theorem streamSession_eq {host : Host} {o : StreamOptions} (connected : s.isConnected = true)
    (interrupts : host.interrupts = .ok ()) (started : (s.configured o).start.1 = .ok ()) :
    streamSession host o p plan s = streamStarted host p plan (s.configured o).start.2 := by
  rw [streamSession, if_neg (by simp [connected])]
  dsimp only
  rw [interrupts]
  dsimp only
  generalize (s.configured o).start = result at started ⊢
  obtain ⟨reply, u⟩ := result
  cases started
  rfl

/-- What a command comes to that has opened its session. -/
theorem runStream_eq {host : Host} {format : Format} {location : Location} {sensor : Sensor}
    {o : StreamOptions} (planned : o.plan? location sensor = .ok plan)
    (opened : openSession host plan.service sensor.name
      ((o.printer sensor format).decoder plan.interface o.batch) .empty = .ok s) :
    runStream host format location sensor o =
      ⟨(streamSession host o (o.printer sensor format) plan s).2.sink.output,
        (streamSession host o (o.printer sensor format) plan s).1,
        sentMessages host plan.service sensor.name plan.interface
          (streamSession host o (o.printer sensor format) plan s).2.talk,
        (streamSession host o (o.printer sensor format) plan s).2.links⟩ := by
  -- The command builds its printer in place, so the name of the printer is opened first.
  unfold StreamOptions.printer at *
  rw [runStream, planned]
  dsimp only
  rw [opened]

/-- A stream whose session is opened, connected and started prints the first records delivered, as
many as were asked for, in order and numbered from zero. How it ends follows from the reason that is
found first. It is stopped after its last wait and before it is handed back, unless the command
breaks down: then it is handed back without a stop. -/
theorem stream_concludes {host : Host} {format : Format} {location : Location} {sensor : Sensor}
    {o : StreamOptions} (planned : o.plan? location sensor = .ok plan)
    (opened : openSession host plan.service sensor.name
      ((o.printer sensor format).decoder plan.interface o.batch) .empty = .ok s)
    (connected : s.isConnected = true) (interrupts : host.interrupts = .ok ())
    (started : (s.configured o).start.1 = .ok ()) :
    ∃ t, (runStream host format location sensor o).output = t.sink.output ∧
      (runStream host format location sensor o).messages =
        sentMessages host plan.service sensor.name plan.interface t.talk ∧
      (o.printer sensor format).Prints t.sink ∧
      Concludes host (o.printer sensor format) plan (s.configured o).start.2
        (runStream host format location sensor o).ending t := by
  have interface := Printer.interface_decoder (o.printer sensor format) plan.interface o.batch
  have commanded := commanded_of_openSession ⟨plan.service, sensor.name, plan.interface⟩ interface
    opened
  have begun := (commanded.leadsTo (s.leadsTo_configured o)).leadsTo (.perform _ .start nofun)
  have running : (s.configured o).start.2.running = true :=
    ((s.configured o).perform_effect .start).running
  obtain ⟨empty, decoder, -, -⟩ := begins_openSession opened
  have prints : (o.printer sensor format).Prints
      (streamSession host o (o.printer sensor format) plan s).2.sink :=
    prints_streamSession decoder empty
  have came : streamSession host o (o.printer sensor format) plan s =
      streamStarted host (o.printer sensor format) plan (s.configured o).start.2 :=
    streamSession_eq connected interrupts started
  rw [runStream_eq planned opened]
  refine ⟨_, rfl, rfl, prints, ?_⟩
  dsimp only
  rw [came]
  exact concludes_streamStarted begun running rfl

/-! ## Streams that begin -/

/-- Whether a stream gets its session and its connection, and is started. -/
def StreamOptions.begins (o : StreamOptions) (host : Host) (format : Format) (sensor : Sensor)
    (plan : StreamPlan) : Bool :=
  match openSession host plan.service sensor.name
    ((o.printer sensor format).decoder plan.interface o.batch) .empty with
  | .error _ => false
  | .ok s => s.isConnected && (s.configured o).start.1.isOk

theorem StreamOptions.exists_of_begins {host : Host} {format : Format} {sensor : Sensor}
    {o : StreamOptions} (begins : o.begins host format sensor plan = true) :
    ∃ s, openSession host plan.service sensor.name
        ((o.printer sensor format).decoder plan.interface o.batch) .empty = .ok s ∧
      s.isConnected = true ∧ (s.configured o).start.1 = .ok () := by
  unfold StreamOptions.begins at begins
  split at begins
  · cases begins
  · next s opened =>
    obtain ⟨connected, replied⟩ := Bool.and_eq_true_iff.mp begins
    refine ⟨s, opened, connected, ?_⟩
    cases started : (s.configured o).start.1 with
    | ok => rfl
    | error e =>
      rw [started] at replied
      cases replied

theorem exists_ok_of_any {ε α : Type} {result : Except ε α} {p : α → Bool}
    (any : result.toOption.any p = true) : ∃ a, result = .ok a ∧ p a = true := by
  cases result with
  | error e => cases any
  | ok a => exact ⟨a, rfl, any⟩

/-! ## A stream that ends well and one that breaks down -/

/-- A host that lets every session have one record of four bytes. -/
def Host.sampling : Host :=
  { Host.lending fun _ => true with turns := [⟨false, false, [1, 2, 3, 4], false⟩, .quiet] }

/-- The sample socket of that host. -/
def Location.sampling : Location := ⟨"sensord.sock", Service.defaultName, .system, "5s"⟩

/-- A stream of one record of four bytes, within some time. -/
def StreamOptions.single (timeout : String) : StreamOptions where
  layout := .bytes 4
  batch := false
  interval := none
  bufferInterval := none
  bufferSize := none
  standbyOverride := false
  dataRangeIndex := none
  count := some 1
  timeout := some timeout
  poll := "100ms"

/-- Such a stream of the light sensor. -/
def streamOne (timeout : String) : Execution :=
  runStream .sampling .raw .sampling ⟨"alssensor", none⟩ (.single timeout)

/-- A record that comes in time is printed, and the session is stopped and then handed back. -/
theorem stream_concludes_single :
    (streamOne "60s").ending = .exit .success ∧
      ∃ u t : Session Printout, (streamOne "60s").output = t.sink.output ∧ t = u.stop.2.close := by
  -- One evaluation of the opening gives all that the theorem asks for.
  have ready : ((StreamOptions.single "60s").plan? .sampling ⟨"alssensor", none⟩).toOption.any
      ((StreamOptions.single "60s").begins .sampling .raw ⟨"alssensor", none⟩) = true := by
    decide +kernel
  have success : (streamOne "60s").ending = .exit .success := by decide +kernel
  obtain ⟨plan, planned, begins⟩ := exists_ok_of_any ready
  obtain ⟨s, opened, connected, started⟩ := StreamOptions.exists_of_begins begins
  obtain ⟨t, output, -, -, concludes⟩ := stream_concludes planned opened connected rfl started
  have whole : (streamOne "60s").ending ≠ .breakdown := success ▸ nofun
  have ends : (streamOne "60s").ending ≠ .endless := success ▸ nofun
  obtain ⟨u, -, closed, -⟩ := concludes.stopped whole ends
  exact ⟨success, u, t, output, closed⟩

/-- A time that cannot be told on the clock breaks the command down once the session has been
started: it is not stopped, but handed back, and the record is not printed. -/
theorem stream_unstopped :
    (streamOne "18446744073709551615s").ending = .breakdown ∧
      (streamOne "18446744073709551615s").output = [] ∧
      ((streamOne "18446744073709551615s").messages.filter (Message.calls "start")).length = 1 ∧
      (streamOne "18446744073709551615s").messages.filter (Message.calls "stop") = [] ∧
      ((streamOne "18446744073709551615s").messages.filter
        (Message.calls "releaseSensor")).length = 1 := by
  decide +kernel

end SensorClient
