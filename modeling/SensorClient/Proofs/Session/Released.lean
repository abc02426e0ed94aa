import SensorClient.Proofs.Session.Dispatch
import SensorClient.Proofs.Session.Lifecycle

/-!
# Samples of a session that is of no more use

A session is of no more use once it was released, or if it never got its connection. Without a
connection it has nothing to decode. But a release takes neither the subscription nor the
connection, so a session that was released goes on decoding what comes, for as long as it runs, and
it can even be started after the release.

## Main results

* `state_eq_invalid_iff`: what makes a session of no more use
* `Opened.decodes_invalid`: when such a session has its decoder make a pass, and what happens
  otherwise
-/

namespace SensorClient

namespace Session

variable {σ : Type}

theorem state_eq_invalid_iff (s : Session σ) :
    s.state = .invalid ↔ s.released = true ∨ s.isConnected = false := by
  unfold state
  cases s.released <;> cases s.isConnected <;> cases s.running <;> simp

/-- Only a session with a connection has bytes. -/
theorem isConnected_of_pending {s : Session σ} (pending : 0 < s.bytesAvailable) :
    s.isConnected = true := by
  obtain ⟨link, held, -⟩ := s.reader.bytesAvailable_pos_iff.mp pending
  simp [isConnected, Reader.isConnected, held]

end Session

namespace Opened

variable {σ : Type} {offered : Option Link} {s : Session σ}

/-- However it came to be of no more use, a session has its decoder make a pass exactly if it was
released, the last start or stop was a start, and there are bytes; the limit of the wait has no part
in it. Otherwise the decoder plays no part, and so it is with a session that never got its
connection. -/
theorem decodes_invalid (opened : Opened offered s) (events : List Event)
    (invalid : (s.run events).state = .invalid) (limit : Option Duration) :
    ((s.run events).Decodes limit ↔
      .op .release ∈ events ∧ startedLast events = true ∧ 0 < (s.run events).bytesAvailable) ∧
      (¬ (s.run events).Decodes limit → (s.run events).LeavesDecoder limit) ∧
      (s.isConnected = false → ¬ (s.run events).Decodes limit) := by
  have iff := (s.run events).decodes_iff limit
  rw [opened.subscribed_run, opened.running_run] at iff
  refine ⟨?_, Session.leavesDecoder_of_not_decodes, ?_⟩
  · rw [iff]
    constructor
    · rintro ⟨started, pending⟩
      -- It is of no more use, but not for want of a connection: it has bytes.
      have released : (s.run events).released = true := by
        rcases (s.run events).state_eq_invalid_iff.mp invalid with released | unconnected
        · exact released
        · rw [Session.isConnected_of_pending pending] at unconnected
          cases unconnected
      exact ⟨(opened.released_run events).mp released, started, pending⟩
    · rintro ⟨-, started, pending⟩
      exact ⟨started, pending⟩
  · intro unconnected decodes
    have connected := Session.isConnected_of_pending (iff.mp decodes).2
    rw [s.isConnected_run, unconnected] at connected
    cases connected

/-- A session that was released before it was started decodes what comes. -/
theorem decodes_invalid_started_after :
    ((Session.acknowledged 4).run [.op .release, .op .start, .feed [1, 2, 3, 4]]).Decodes none :=
  ((opened_acknowledged 4).decodes_invalid [.op .release, .op .start, .feed [1, 2, 3, 4]] rfl
    none).1.mpr (by decide)

/-- A session that is released while it runs is of no more use, and a record that comes after that
reaches the sink all the same. -/
theorem released_session_delivers :
    ((Session.acknowledged 4).run [.op .start, .op .release, .feed [1, 2, 3, 4]]).state =
        .invalid ∧
      ((Session.acknowledged 4).run [.op .start, .op .release, .feed [1, 2, 3, 4]]).Decodes
        (some ⟨0⟩) ∧
      ((Session.acknowledged 4).run [.op .start, .op .release, .feed [1, 2, 3, 4],
        .op (.processEvents (some ⟨0⟩))]).sink = [[1, 2, 3, 4]] :=
  ⟨rfl, ⟨1, Nat.le_refl 1, by decide +kernel⟩, by decide +kernel⟩

end Opened

end SensorClient
