import SensorClient.Proofs.Session.HangUp

/-!
# Dispatches that come back

Waiting for samples waits for a first byte at most as long as it may. What is read after that is
whole units: a record, or the number of a batch and then the batch. Nothing limits these reads unless
the session was configured to, so a dispatch comes back exactly if each of its reads finds as many
bytes as it asks for, and that is so exactly if whole units were pending.

## Main definitions

* `Session.Prompt`: every read of a dispatch finds its bytes
* `Session.DispatchReads`: what the reads of a dispatch come to

## Main results

* `Session.readTimeout?_run`: nothing changes the limit to the waits of reads
* `Opened.dispatchReads`: what holds of every dispatch of a session that was opened
-/

namespace SensorClient

/-- The limit to the waits of reads on the connection that is held. -/
def Reader.readTimeout? (r : Reader) : Option (Option Duration) := r.link.map Link.readTimeout

theorem Reader.readTimeout?_bare (r : Reader) : r.bare.readTimeout? = r.readTimeout? := by
  cases held : r.link <;> simp [readTimeout?, bare, held, Link.bare]

namespace Session

variable {σ : Type} {s : Session σ} {limit : Option Duration}

/-- Nothing changes the limit to the waits of reads. -/
theorem readTimeout?_step (s : Session σ) (e : Event) :
    (s.step e).reader.readTimeout? = s.reader.readTimeout? := by
  cases e with
  | op op =>
    -- An operation leaves all of the connection as it was but for the bytes that are pending.
    have kept := congrArg Reader.readTimeout? (s.perform_effect op).reader
    rw [Reader.readTimeout?_bare] at kept
    exact kept.trans s.reader.readTimeout?_bare
  | feed bytes =>
    rw [← Reader.readTimeout?_bare, show (s.step (.feed bytes)).reader.bare = s.reader.bare from
      Reader.bare_feed s.reader bytes, Reader.readTimeout?_bare]
  | shutdown | hangUp | breakDescriptor =>
    cases held : s.reader.link <;>
      simp [step, onLink, Reader.onLink, Reader.readTimeout?, held, Link.shutdown, Link.hangUp,
        Link.breakDescriptor]

theorem readTimeout?_run (s : Session σ) (events : List Event) :
    (s.run events).reader.readTimeout? = s.reader.readTimeout? :=
  run_induction (A := fun _ => True) (P := fun t => t.reader.readTimeout? = s.reader.readTimeout?)
    (fun t e _ kept => (t.readTimeout?_step e).trans kept) (fun _ _ => trivial) rfl

/-- Every read of a dispatch finds its bytes. -/
def Prompt (s : Session σ) : Prop := s.decoder.Prompt s.sink s.reader

/-- What the reads of a dispatch come to that finds bytes, where nothing limits them. -/
structure DispatchReads (s : Session σ) (limit : Option Duration) : Prop where
  /-- As long as the daemon may send, the dispatch comes back exactly if every read finds its
  bytes. -/
  back : ¬ s.reader.CutOff → ((s.processEvents limit).2.reader.halted = none ↔ s.Prompt)
  /-- If one does not, the dispatch waits for what is missing, whatever its own limit. -/
  waits : ¬ s.reader.CutOff → s.decoder.Modest → ¬ s.Prompt →
    (s.processEvents limit).2.reader.halted = some .waiting
  /-- Once the daemon has stopped sending, the dispatch comes back. -/
  ended : s.reader.CutOff → s.decoder.Modest → (s.processEvents limit).2.reader.halted = none
  /-- Single records are found exactly if whole records are pending. -/
  records : ∀ interface size sink, s.decoder = .fixed interface size sink → 1 ≤ size →
    (s.Prompt ↔ size < Reader.readLimit ∧ size ∣ s.pending.length)
  /-- Batches are found exactly if whole batches are pending, perhaps with one behind them that is
  given up. -/
  batches : ∀ interface size sink, s.decoder = .batch interface size sink →
    (s.Prompt ↔ Decoder.MadeUp (IsBatch size) Bytes.ofBatch Decoder.Overfull s.pending)

theorem endless_of_live (sound : s.reader.Sound) (unlimited : s.reader.readTimeout? = some none)
    (live : ¬ s.reader.CutOff) : s.reader.endless = true := by
  obtain ⟨link, held, -⟩ := sound
  have sending : link.sending = true := by simpa [Reader.CutOff, held] using live
  have patience : link.readTimeout = none := by simpa [Reader.readTimeout?, held] using unlimited
  simp [Reader.endless, held, Link.endless, sending, patience]

theorem dispatchReads (sound : s.reader.Sound) (unlimited : s.reader.readTimeout? = some none)
    (subscribed : s.reader.subscribed = true) (returned : s.reader.halted = none)
    (pending : s.pending ≠ []) : s.DispatchReads limit := by
  obtain ⟨link, held, valid⟩ := sound
  have bytes : s.pending = link.inbound := pending_of_held held
  rw [bytes] at pending
  have there : 0 < s.bytesAvailable :=
    (Reader.bytesAvailable_pos_iff s.reader).mpr ⟨link, held, valid, pending⟩
  -- What is pending is decoded, so the dispatch comes back exactly if the drain does.
  have drained := processEvents_of_pending subscribed there limit
  have back (live : ¬ s.reader.CutOff) :
      (s.processEvents limit).2.reader.halted = none ↔ s.Prompt := by
    rw [drained, Prompt,
      Decoder.prompt_iff_answered (endless_of_live ⟨link, held, valid⟩ unlimited live)]
    exact Decoder.returned_drain_iff ⟨link, held, valid⟩ returned
  constructor
  · exact back
  · intro live modest missing
    have halted := mt (back live).mp missing
    rw [drained] at halted ⊢
    have bounded : s.dataReceived.2.reader.halted ≠ some .oversized :=
      Decoder.drain_ne_oversized modest (by simp [returned])
    rcases outcome : s.dataReceived.2.reader.halted with _ | (_ | _)
    · exact absurd outcome halted
    · rfl
    · exact absurd outcome bounded
  · intro cutOff modest
    have limited : s.reader.endless = false := by
      simp [Reader.endless, held, Link.endless, cutOff link held]
    rw [drained]
    exact (Decoder.returned_drain_iff ⟨link, held, valid⟩ returned).mpr
      (modest.answered s.sink limited)
  · intro interface size sink decoder positive
    rw [Prompt, decoder, bytes]
    exact Decoder.prompt_fixed_iff interface sink positive held valid pending
  · intro interface size sink decoder
    rw [Prompt, decoder, bytes]
    exact Decoder.prompt_batch_iff interface size sink held valid pending

end Session

namespace Opened

open Session

variable {σ : Type} {offered : Option Link} {s : Session σ} {events : List Event}

theorem readTimeout? (opened : Opened offered s) (connected : s.isConnected = true) :
    s.reader.readTimeout? = some s.reader.config.readTimeout := by
  obtain ⟨link, -, -, -, held⟩ := opened.held connected
  simp [Reader.readTimeout?, held]

theorem sound (opened : Opened offered s) (connected : s.isConnected = true) : s.reader.Sound := by
  obtain ⟨link, -, -, valid, held⟩ := opened.held connected
  exact ⟨_, held, valid⟩

/-- What holds of every dispatch of a running session that is connected, that was configured without
a limit to its reads, and that finds bytes, however these have come. -/
theorem dispatchReads (opened : Opened offered s) (connected : s.isConnected = true)
    (unlimited : s.reader.config.readTimeout = none) (valid : .breakDescriptor ∉ events)
    (running : (s.run events).running = true) (returned : (s.run events).reader.halted = none)
    (pending : (s.run events).pending ≠ []) (limit : Option Duration) :
    (s.run events).DispatchReads limit := by
  have sound := sound_run (opened.sound connected) valid
  have patience : (s.run events).reader.readTimeout? = some none := by
    rw [s.readTimeout?_run, opened.readTimeout? connected, unlimited]
  exact Session.dispatchReads sound patience ((opened.subscribed_run events).trans running) returned
    pending

end Opened

end SensorClient
