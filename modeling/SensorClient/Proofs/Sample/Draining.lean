import SensorClient.Proofs.Sample.Reading
import SensorClient.Session.Channel

/-!
# The passes of a drain

A drain makes its passes straight one after the other. It goes on after a pass only if that pass got
a record and left some bytes, but fewer than it found. So whatever the decoder does, and however much
the daemon sends while a pass runs, the number of bytes that are there falls from one pass to the
next, and no drain makes more passes than it found bytes.

## Main definitions

* `Decoder.after`: what is found after so many passes
* `Decoder.gets`, `Decoder.left`: whether the next pass gets a record, and how many bytes are there
* `Decoder.GoesOn`: a drain goes on after the next pass
* `Decoder.Drains`: a drain makes so many passes

## Main results

* `drain_eq_after`: a drain leaves what its passes leave
* `drains`, `Drains.unique`: a drain makes as many passes as it goes on after, and one more
* `returns_drain_iff`: a drain comes back if and only if its passes do
* `Session.dataReceived_drains`: a session makes at most as many passes as bytes are there
-/

namespace SensorClient

/-! ## Reads that do not come back -/

/-- No read comes back after one that did not. -/
theorem Reader.returned_of_readBytes {r : Reader} {wanted : Nat}
    (returned : (r.readBytes wanted).2.halted = none) : r.halted = none := by
  -- A halt that is there already is kept, whichever way the read goes.
  cases halted : r.halted with
  | none => rfl
  | some halt =>
    have kept : (r.readBytes wanted).2.halted = some halt := by
      unfold readBytes
      repeat' split
      all_goals simp [halted]
    rw [kept] at returned
    cases returned

theorem Pass.returned_of_run {α : Type} {pass : Pass α} {r : Reader}
    (returned : (pass.run r).2.halted = none) : r.halted = none := by
  induction pass generalizing r with
  | done a => exact returned
  | take wanted next ih => exact Reader.returned_of_readBytes (ih _ returned)
  | count next ih => exact ih _ returned
  | arrival bytes next ih =>
    exact ih (r := r.onLink fun link => (link.feed bytes).2) returned
  | breakdown a => cases halted : r.halted <;> simp [Pass.run, halted] at returned

/-! ## Passes -/

namespace Decoder

variable {σ : Type} {decoder : Decoder σ} {state : σ} {r : Reader} {n passes : Nat}

/-- The state of the decoder and the reader after so many passes, made straight one after the
other. -/
def after (decoder : Decoder σ) : Nat → σ → Reader → σ × Reader
  | 0, state, r => (state, r)
  | n + 1, state, r =>
    let first := (decoder.pass state).run r
    decoder.after n first.1.2 first.2

theorem after_succ (decoder : Decoder σ) (n : Nat) (state : σ) (r : Reader) :
    decoder.after (n + 1) state r =
      let found := decoder.after n state r
      let next := (decoder.pass found.1).run found.2
      (next.1.2, next.2) := by
  -- The recursion takes the first pass off, so what the passes begin with changes on the way.
  induction n generalizing state r with
  | zero => rfl
  | succ n ih => exact ih _ _

/-- If so many passes come back, then fewer do. -/
theorem returned_of_le {m : Nat} (fewer : m ≤ n)
    (returned : (decoder.after n state r).2.halted = none) :
    (decoder.after m state r).2.halted = none := by
  induction fewer with
  | refl => exact returned
  | step _ ih =>
    rw [after_succ] at returned
    exact ih (Pass.returned_of_run returned)

/-- Whether the pass that follows so many others gets a record. -/
def gets (decoder : Decoder σ) (n : Nat) (state : σ) (r : Reader) : Bool :=
  let found := decoder.after n state r
  ((decoder.pass found.1).run found.2).1.1

/-- The number of bytes that are there after so many passes. -/
def left (decoder : Decoder σ) (n : Nat) (state : σ) (r : Reader) : Nat :=
  (decoder.after n state r).2.bytesAvailable

/-- The pass that follows so many others is of use: it gets a record, and leaves some bytes, but
fewer than it found. -/
def GoesOn (decoder : Decoder σ) (n : Nat) (state : σ) (r : Reader) : Prop :=
  decoder.gets n state r = true ∧ 0 < decoder.left (n + 1) state r ∧
    decoder.left (n + 1) state r < decoder.left n state r

theorem goesOn_zero :
    decoder.GoesOn 0 state r ↔
      ((decoder.pass state).run r).1.1 = true ∧
        0 < ((decoder.pass state).run r).2.bytesAvailable ∧
          ((decoder.pass state).run r).2.bytesAvailable < r.bytesAvailable :=
  Iff.rfl

/-- A drain makes so many passes: every pass but the last is of use, and the last one is not. -/
structure Drains (decoder : Decoder σ) (state : σ) (r : Reader) (passes : Nat) : Prop where
  once : 1 ≤ passes
  goesOn : ∀ n, n + 1 < passes → decoder.GoesOn n state r
  ends : ∀ n, n + 1 = passes → ¬ decoder.GoesOn n state r

/-- The last pass of a drain got no record, left nothing, or left no less than it found. -/
theorem Drains.last (drains : decoder.Drains state r (n + 1)) :
    decoder.gets n state r = false ∨ decoder.left (n + 1) state r = 0 ∨
      decoder.left n state r ≤ decoder.left (n + 1) state r := by
  have useless := drains.ends n rfl
  unfold GoesOn at useless
  cases got : decoder.gets n state r with
  | false => exact .inl rfl
  | true =>
    simp only [got, true_and, not_and, Nat.not_lt] at useless
    rcases Nat.eq_zero_or_pos (decoder.left (n + 1) state r) with nothing | some
    · exact .inr (.inl nothing)
    · exact .inr (.inr (useless some))

/-- No other number of passes would do. -/
theorem Drains.unique {others : Nat} (drains : decoder.Drains state r passes)
    (drains' : decoder.Drains state r others) : passes = others := by
  -- The last pass of the shorter drain would be of use in the longer one.
  have once := drains.once
  have once' := drains'.once
  rcases Nat.lt_trichotomy passes others with fewer | same | more
  · exact absurd (drains'.goesOn (passes - 1) (by omega)) (drains.ends (passes - 1) (by omega))
  · exact same
  · exact absurd (drains.goesOn (others - 1) (by omega)) (drains'.ends (others - 1) (by omega))

/-- Passes that are of use leave a byte less each. -/
theorem add_left_le (useful : ∀ i, i < n → decoder.GoesOn i state r) :
    n + decoder.left n state r ≤ r.bytesAvailable := by
  induction n with
  | zero => exact Nat.le_of_eq (Nat.zero_add _)
  | succ n ih =>
    have before := ih fun i less => useful i (Nat.lt_succ_of_lt less)
    have fewer := (useful n (Nat.lt_succ_self n)).2.2
    omega

/-- There are no more passes than bytes, or only the one that is always made. -/
theorem Drains.few (drains : decoder.Drains state r passes) :
    passes ≤ max 1 r.bytesAvailable := by
  obtain ⟨n, rfl⟩ := Nat.exists_eq_add_of_le' drains.once
  cases n with
  | zero => exact Nat.le_max_left 1 _
  | succ n =>
    -- The last pass but one left a byte at least, and each before it left more than the next.
    have positive := (drains.goesOn n (Nat.lt_succ_self _)).2.1
    have bounded := add_left_le fun i less => drains.goesOn i (Nat.succ_lt_succ less)
    exact Nat.le_trans (by omega) (Nat.le_max_right 1 _)

/-- After a pass of use the drain goes on with what that left. -/
theorem drain_of_goesOn (useful : decoder.GoesOn 0 state r) :
    decoder.drain state r =
      let later := decoder.drain ((decoder.pass state).run r).1.2 ((decoder.pass state).run r).2
      (later.1 + 1, later.2) := by
  rw [drain_eq]
  exact if_pos useful

theorem drain_of_not_goesOn (useless : ¬ decoder.GoesOn 0 state r) :
    decoder.drain state r =
      (1, ((decoder.pass state).run r).1.2, ((decoder.pass state).run r).2) := by
  rw [drain_eq]
  exact if_neg useless

/-- What is true of a drain after its first pass is true of it with one pass more. -/
theorem drains_succ (useful : decoder.GoesOn 0 state r)
    (later : decoder.Drains ((decoder.pass state).run r).1.2 ((decoder.pass state).run r).2
      passes) : decoder.Drains state r (passes + 1) where
  once := Nat.le_add_left 1 passes
  goesOn n less := by
    -- The passes of the rest are counted from the second one.
    cases n with
    | zero => exact useful
    | succ n => exact later.goesOn n (Nat.lt_of_succ_lt_succ less)
  ends n last := by
    cases n with
    | zero =>
      have once := later.once
      omega
    | succ n => exact later.ends n (Nat.succ.inj last)

/-- A drain makes as many passes as it says it makes. -/
theorem drains (decoder : Decoder σ) (state : σ) (r : Reader) :
    decoder.Drains state r (decoder.drain state r).1 := by
  -- The bytes that are there carry the induction, as they carry the drain itself.
  induction bytes : r.bytesAvailable using Nat.strongRecOn generalizing state r with
  | ind _ ih =>
    by_cases useful : decoder.GoesOn 0 state r
    · rw [drain_of_goesOn useful]
      exact drains_succ useful (ih _ (bytes ▸ useful.2.2) _ _ rfl)
    · rw [drain_of_not_goesOn useful]
      refine ⟨Nat.le_refl 1, fun n less => absurd less (by omega), fun n last => ?_⟩
      cases Nat.succ.inj last
      exact useful

/-- A drain leaves what its passes leave. -/
theorem drain_eq_after (decoder : Decoder σ) (state : σ) (r : Reader) :
    (decoder.drain state r).2 = decoder.after (decoder.drain state r).1 state r := by
  induction bytes : r.bytesAvailable using Nat.strongRecOn generalizing state r with
  | ind _ ih =>
    by_cases useful : decoder.GoesOn 0 state r
    · rw [drain_of_goesOn useful]
      exact ih _ (bytes ▸ useful.2.2) _ _ rfl
    · rw [drain_of_not_goesOn useful]
      rfl

/-- A drain comes back if and only if its passes do. -/
theorem returns_drain_iff (decoder : Decoder σ) (state : σ) (r : Reader) :
    (decoder.drain state r).2.2.halted = none ↔
      ∀ n ≤ (decoder.drain state r).1, (decoder.after n state r).2.halted = none := by
  rw [drain_eq_after]
  exact ⟨fun returned n fewer => returned_of_le fewer returned,
    fun returned => returned _ (Nat.le_refl _)⟩

end Decoder

/-- Whatever the decoder of a session does, and however much the daemon sends during its passes: the
session makes at least one pass, and at most as many as there are bytes, unless there are none. Every
pass but the last gets a record and leaves some bytes, but fewer than it found; the last one gets no
record, leaves nothing, or leaves no less than it found; and no other number of passes is like that.
All that changes of the session is what these passes make of the samples and of the reader, and the
session comes back if and only if they do. -/
theorem Session.dataReceived_drains {σ : Type} (s : Session σ) :
    1 ≤ s.dataReceived.1 ∧ s.dataReceived.1 ≤ max 1 s.bytesAvailable ∧
      (∀ n, n + 1 < s.dataReceived.1 →
        s.decoder.gets n s.sink s.reader = true ∧ 0 < s.decoder.left (n + 1) s.sink s.reader ∧
          s.decoder.left (n + 1) s.sink s.reader < s.decoder.left n s.sink s.reader) ∧
      (∀ n, n + 1 = s.dataReceived.1 →
        s.decoder.gets n s.sink s.reader = false ∨ s.decoder.left (n + 1) s.sink s.reader = 0 ∨
          s.decoder.left n s.sink s.reader ≤ s.decoder.left (n + 1) s.sink s.reader) ∧
      (∀ passes, s.decoder.Drains s.sink s.reader passes → passes = s.dataReceived.1) ∧
      s.dataReceived.2 =
        { s with
          sink := (s.decoder.after s.dataReceived.1 s.sink s.reader).1
          reader := (s.decoder.after s.dataReceived.1 s.sink s.reader).2 } ∧
      (s.dataReceived.2.reader.halted = none ↔
        ∀ n ≤ s.dataReceived.1, (s.decoder.after n s.sink s.reader).2.halted = none) := by
  have drains : s.decoder.Drains s.sink s.reader s.dataReceived.1 :=
    s.decoder.drains s.sink s.reader
  have leaves : (s.decoder.drain s.sink s.reader).2 =
      s.decoder.after s.dataReceived.1 s.sink s.reader := s.decoder.drain_eq_after s.sink s.reader
  refine ⟨drains.once, drains.few, drains.goesOn, ?_, fun _ others => others.unique drains, ?_,
    s.decoder.returns_drain_iff s.sink s.reader⟩
  · rintro n last
    exact Decoder.Drains.last (last ▸ drains)
  · rw [← leaves]
    rfl

/-- A decoder that gets a byte for each that it takes is stopped after one pass. -/
example :
    let decoder : Decoder Nat :=
      ⟨"local.TestSensor", fun n => .take 1 fun bytes => .arrival [0] (.done (bytes.isSome, n + 1))⟩
    let r : Reader := { Reader.idle .initial with link := some (.fresh 0 [1, 2, 3]) }
    (decoder.drain 0 r).1 = 1 ∧ (decoder.drain 0 r).2.2.bytesAvailable = 3 := by
  decide +kernel

end SensorClient
