import SensorClient.Session.Operation
import SensorClient.Proofs.Sample.Reading

/-!
# What waiting for samples comes to

A session that hears of samples has them decoded exactly if there are some. Otherwise the decoder
takes no part in what happens.

## Main definitions

* `Session.Decodes`: waiting for samples has the decoder make a pass
* `Session.LeavesDecoder`: waiting for samples does not depend on the decoder

## Main results

* `decodes_iff`: the decoder makes a pass exactly if a subscribed session has bytes
* `leavesDecoder_of_not_decodes`: where it makes no pass it plays no part
-/

namespace SensorClient

theorem Link.waitReadable_eq_readable_iff (link : Link) :
    link.waitReadable = .readable ↔ link.broken = false ∧ link.inbound ≠ [] := by
  cases broken : link.broken <;> cases inbound : link.inbound <;>
    simp [waitReadable, broken, inbound]
  split <;> simp

namespace Reader

theorem bytesAvailable_pos_iff (r : Reader) :
    0 < r.bytesAvailable ↔
      ∃ link, r.link = some link ∧ link.broken = false ∧ link.inbound ≠ [] := by
  cases held : r.link with
  | none => simp [bytesAvailable, held]
  | some link =>
    cases broken : link.broken <;>
      simp [bytesAvailable, held, Link.available, broken, Except.toOption, List.length_pos_iff]

theorem waitReadable_eq_readable_iff (r : Reader) :
    r.waitReadable = .ok .readable ↔ 0 < r.bytesAvailable := by
  rw [bytesAvailable_pos_iff]
  cases held : r.link with
  | none => simp [waitReadable, held]
  | some link => simp [waitReadable, held, Link.waitReadable_eq_readable_iff]

/-- A wait leaves the connection alone. -/
theorem link_await (r : Reader) (limit : Option Duration) : (r.await limit).2.link = r.link := by
  unfold await
  dsimp only
  split
  · dsimp only
    split <;> rfl
  · rfl

/-- A wait with something to read takes nothing of it. -/
theorem await_of_pending {r : Reader} (pending : 0 < r.bytesAvailable) (limit : Option Duration) :
    r.await limit = (.ok .readable, r) := by
  have readable := r.waitReadable_eq_readable_iff.mpr pending
  unfold await
  rw [readable]

end Reader

namespace Session

variable {σ : Type}

/-- Waiting for samples has the decoder make at least one pass. -/
def Decodes (s : Session σ) (limit : Option Duration) : Prop :=
  ∃ passes, 1 ≤ passes ∧ (s.processEvents limit).1 = .delivered passes

/-- Waiting for samples leaves the state of the decoder and the connection alone, and with any other
decoder in its place it comes to the same. -/
def LeavesDecoder (s : Session σ) (limit : Option Duration) : Prop :=
  (s.processEvents limit).2.sink = s.sink ∧
    (s.processEvents limit).2.reader.link = s.reader.link ∧
    ∀ decoder, { s with decoder }.processEvents limit =
      ((s.processEvents limit).1, { (s.processEvents limit).2 with decoder })

theorem processEvents_of_unsubscribed {s : Session σ} (unsubscribed : s.reader.subscribed = false)
    (limit : Option Duration) : s.processEvents limit = (.idle, s) := by
  simp [processEvents, unsubscribed]

/-- A subscribed session with bytes has them decoded, however long it would have waited. -/
theorem processEvents_of_pending {s : Session σ} (subscribed : s.reader.subscribed = true)
    (pending : 0 < s.bytesAvailable) (limit : Option Duration) :
    s.processEvents limit = (.delivered s.dataReceived.1, s.dataReceived.2) := by
  simp [processEvents, subscribed, Reader.await_of_pending pending]

/-- A wait that ends without anything changes nothing, unless it never ends. -/
theorem processEvents_of_timeout {s : Session σ} (subscribed : s.reader.subscribed = true)
    (timeout : s.reader.waitReadable = .ok .timeout) (limit : Option Duration) :
    s.processEvents limit = (.idle, { s with reader := (s.reader.await limit).2 }) := by
  simp [processEvents, subscribed, Reader.await, timeout]

/-- A wait that finds the connection at its end, or none, is the loss of it. -/
theorem processEvents_of_lost {s : Session σ} (subscribed : s.reader.subscribed = true)
    (lost : s.reader.waitReadable = .ok .hangup ∨ ∃ e, s.reader.waitReadable = .error e)
    (limit : Option Duration) : s.processEvents limit = (.disconnected, s.lose) := by
  rcases lost with hangup | ⟨e, missing⟩
  · simp [processEvents, subscribed, Reader.await, hangup]
  · simp [processEvents, subscribed, Reader.await, missing]

/-- Only a subscribed session with bytes has something delivered. -/
theorem pending_of_delivered {s : Session σ} {limit : Option Duration} {passes : Nat}
    (delivered : (s.processEvents limit).1 = .delivered passes) :
    s.reader.subscribed = true ∧ 0 < s.bytesAvailable := by
  cases subscribed : s.reader.subscribed with
  | false =>
    rw [processEvents_of_unsubscribed subscribed] at delivered
    cases delivered
  | true =>
    -- Of all that a wait can find only bytes have something delivered.
    refine ⟨rfl, s.reader.waitReadable_eq_readable_iff.mp ?_⟩
    rcases found : s.reader.waitReadable with e | (_ | _ | _)
    · rw [processEvents_of_lost subscribed (.inr ⟨e, found⟩)] at delivered
      cases delivered
    · rfl
    · rw [processEvents_of_lost subscribed (.inl found)] at delivered
      cases delivered
    · rw [processEvents_of_timeout subscribed found] at delivered
      cases delivered

/-- The decoder makes a pass exactly if a subscribed session has bytes. -/
theorem decodes_iff (s : Session σ) (limit : Option Duration) :
    s.Decodes limit ↔ s.reader.subscribed = true ∧ 0 < s.bytesAvailable := by
  constructor
  · rintro ⟨passes, -, delivered⟩
    exact pending_of_delivered delivered
  · rintro ⟨subscribed, pending⟩
    rw [Decodes, processEvents_of_pending subscribed pending]
    exact ⟨_, s.decoder.one_le_drain s.sink s.reader, rfl⟩

/-- Where the decoder makes no pass it plays no part. -/
theorem leavesDecoder_of_not_decodes {s : Session σ} {limit : Option Duration}
    (idle : ¬ s.Decodes limit) : s.LeavesDecoder limit := by
  rw [decodes_iff, not_and] at idle
  unfold LeavesDecoder
  cases subscribed : s.reader.subscribed with
  | false =>
    rw [processEvents_of_unsubscribed subscribed]
    exact ⟨rfl, rfl, fun decoder =>
      processEvents_of_unsubscribed (s := { s with decoder }) subscribed limit⟩
  | true =>
    rcases found : s.reader.waitReadable with e | (_ | _ | _)
    · rw [processEvents_of_lost subscribed (.inr ⟨e, found⟩)]
      exact ⟨rfl, rfl, fun decoder =>
        processEvents_of_lost (s := { s with decoder }) subscribed (.inr ⟨e, found⟩) limit⟩
    · exact absurd (s.reader.waitReadable_eq_readable_iff.mp found) (idle subscribed)
    · rw [processEvents_of_lost subscribed (.inl found)]
      exact ⟨rfl, rfl, fun decoder =>
        processEvents_of_lost (s := { s with decoder }) subscribed (.inl found) limit⟩
    · rw [processEvents_of_timeout subscribed found]
      exact ⟨rfl, s.reader.link_await limit, fun decoder =>
        processEvents_of_timeout (s := { s with decoder }) subscribed found limit⟩

end Session

end SensorClient
