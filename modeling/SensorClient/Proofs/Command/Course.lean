import SensorClient.Command.Info
import SensorClient.Command.Stream
import SensorClient.Session.Operation

/-!
# What a command does with its session

Between its opening and its close a command puts a session through a run like any other: questions
when it only tells what is known of a sensor, settings, a start, waits and a stop when it streams.
It never releases the session itself. So whatever holds of every run without a release holds of the
session that a command closes.

## Main definitions

* `Session.LeadsTo`: what a run without a release makes of a session
* `StreamOptions.settings`, `Turn.events`: the events that options and turns amount to

## Main results

* `collectInfo_snd`, `configured_eq_run`, `onLink_act`: parts of a command, as runs
* `leadsTo_streamTurns`: so are the turns of a stream, however they end
* `streamSession_closes`: a stream closes its session unless it goes on for ever
-/

namespace SensorClient

/-- The settings that options amount to, in order. -/
def StreamOptions.settings (o : StreamOptions) : List Event :=
  (o.interval.map fun n => Event.op (.setInterval n)).toList ++
    (o.bufferInterval.map fun n => Event.op (.setBufferInterval n)).toList ++
    (o.bufferSize.map fun n => Event.op (.setBufferSize n)).toList ++
    (if o.standbyOverride then [.op (.setStandbyOverride true)] else []) ++
    (o.dataRangeIndex.map fun n => Event.op (.setDataRangeIndex n)).toList

/-- What the daemon does in a turn, as events. -/
def Turn.events (turn : Turn) : List Event :=
  .feed turn.arrival :: if turn.hangsUp then [.hangUp] else []

namespace Session

variable {σ : Type}

/-- A run without a release leads from one session to the other. -/
def LeadsTo (s t : Session σ) : Prop := ∃ events, .op .release ∉ events ∧ t = s.run events

namespace LeadsTo

variable {s t u : Session σ}

theorem refl (s : Session σ) : s.LeadsTo s := ⟨[], List.not_mem_nil, rfl⟩

theorem trans (first : s.LeadsTo t) (then' : t.LeadsTo u) : s.LeadsTo u := by
  obtain ⟨before, held, rfl⟩ := first
  obtain ⟨after, held', rfl⟩ := then'
  refine ⟨before ++ after, ?_, (s.run_append before after).symm⟩
  rw [List.mem_append, not_or]
  exact ⟨held, held'⟩

theorem perform (s : Session σ) (op : Op) (other : op ≠ .release) :
    s.LeadsTo (s.perform op).2 :=
  ⟨[.op op], by simpa using other.symm, rfl⟩

end LeadsTo

/-- Telling what is known of a sensor is a run of questions. -/
theorem collectInfo_snd (s : Session σ) (sensor interface : String) :
    (s.collectInfo sensor interface).2 =
      s.run ([.errorCode, .errorString, .description, .sensorName, .sensorType, .hwBuffering,
        .currentDataRange, .availableDataRanges, .availableIntervals, .availableBufferIntervals,
        .availableBufferSizes].map Event.op) :=
  rfl

theorem leadsTo_collectInfo (s : Session σ) (sensor interface : String) :
    s.LeadsTo (s.collectInfo sensor interface).2 :=
  ⟨_, by decide, s.collectInfo_snd sensor interface⟩

/-- Options are run as settings. -/
theorem configured_eq_run (s : Session σ) (o : StreamOptions) :
    s.configured o = s.run o.settings := by
  unfold configured StreamOptions.settings
  cases o.interval <;> cases o.bufferInterval <;> cases o.bufferSize <;>
    cases o.standbyOverride <;> cases o.dataRangeIndex <;> rfl

theorem leadsTo_configured (s : Session σ) (o : StreamOptions) : s.LeadsTo (s.configured o) := by
  refine ⟨o.settings, ?_, s.configured_eq_run o⟩
  unfold StreamOptions.settings
  cases o.standbyOverride <;> simp

/-- What the daemon does in a turn is a run. -/
theorem onLink_act (s : Session σ) (turn : Turn) : s.onLink turn.act = s.run turn.events := by
  have acts : turn.act = fun link =>
      if turn.hangsUp then (link.feed turn.arrival).2.hangUp else (link.feed turn.arrival).2 := rfl
  cases hangsUp : turn.hangsUp <;>
    simp [acts, Turn.events, hangsUp, run, step, onLink, Reader.onLink, Function.comp_def]

theorem leadsTo_onLink_act (s : Session σ) (turn : Turn) : s.LeadsTo (s.onLink turn.act) := by
  refine ⟨turn.events, ?_, s.onLink_act turn⟩
  unfold Turn.events
  split <;> simp

end Session

variable {p : Printer}

/-- However the turns of a stream end, they are a run without a release. -/
theorem leadsTo_streamTurns (poll : Duration) (timed : Bool) (turns : List Turn)
    (s : Session Printout) : s.LeadsTo (streamTurns p poll timed turns s).2 := by
  induction turns generalizing s with
  | nil => exact .refl s
  | cons turn rest ih =>
    have waited : s.LeadsTo ((s.onLink turn.act).processEvents (some poll)).2 :=
      (s.leadsTo_onLink_act turn).trans (.perform _ (.processEvents (some poll)) nofun)
    unfold streamTurns
    -- The three ways to end before the wait change nothing.
    split
    · exact .refl s
    · split
      · exact .refl s
      · split
        · exact .refl s
        · dsimp only
          split
          · exact waited
          · split
            · exact waited
            · exact waited.trans (ih _)

/-- A stream that has started closes its session unless it goes on for ever. -/
theorem streamStarted_closes (host : Host) (plan : StreamPlan) (s : Session Printout) :
    (streamStarted host p plan s).1 = .endless ∧ s.LeadsTo (streamStarted host p plan s).2 ∨
      ∃ t, s.LeadsTo t ∧ (streamStarted host p plan s).2 = t.close := by
  -- Where the turns come to an end, the session is stopped before it is closed.
  have stopped : ∀ t : Session Printout, s.LeadsTo t → s.LeadsTo t.stop.2 := fun t reached =>
    reached.trans (.perform t .stop nofun)
  unfold streamStarted
  split
  · exact .inr ⟨s, .refl s, rfl⟩
  · have reached := leadsTo_streamTurns (p := p) plan.poll plan.limit.isSome host.turns s
    split <;> rename_i ended <;> rw [ended] at reached
    · exact .inr ⟨_, stopped _ reached, rfl⟩
    · exact .inr ⟨_, stopped _ reached, rfl⟩
    · exact .inr ⟨_, stopped _ reached, rfl⟩
    · exact .inr ⟨_, stopped _ (reached.trans (.perform _ .errorString nofun)), rfl⟩
    · exact .inr ⟨_, reached, rfl⟩
    · exact .inl ⟨rfl, reached⟩
    · exact .inl ⟨rfl, reached⟩

/-- A stream closes its session unless it goes on for ever: also one that never connected, that
cannot be interrupted, or that is refused its start. -/
theorem streamSession_closes (host : Host) (o : StreamOptions) (plan : StreamPlan)
    (s : Session Printout) :
    (streamSession host o p plan s).1 = .endless ∧ s.LeadsTo (streamSession host o p plan s).2 ∨
      ∃ t, s.LeadsTo t ∧ (streamSession host o p plan s).2 = t.close := by
  have configured := s.leadsTo_configured o
  have started : s.LeadsTo (s.configured o).start.2 := configured.trans (.perform _ .start nofun)
  unfold streamSession
  split
  · exact .inr ⟨_, .perform s .errorString nofun, rfl⟩
  · dsimp only
    split
    · exact .inr ⟨_, configured, rfl⟩
    · split <;> rename_i replied <;> rw [replied] at started
      · exact .inr ⟨_, started, rfl⟩
      · rcases streamStarted_closes host plan _ with ⟨endless, reached⟩ | ⟨t, reached, closed⟩
        · exact .inl ⟨endless, started.trans reached⟩
        · exact .inr ⟨t, started.trans reached, closed⟩

end SensorClient
