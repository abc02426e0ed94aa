import SensorClient.Proofs.Control.Narrowing
import SensorClient.Proofs.Wire.Interface

/-!
# Replies of another type

A reply that does not have the type that was asked for can be found out in two places. A bus that
hands over values of any shape leaves it to whoever narrows them, and there it is a failure that
names the method and the kind that was wanted. Over a wire the body of a reply is read by its type
first. That settles the matter before there is anything to narrow: what is read always narrows, and
what is not read is taken for a failure of the wire, which ends a command differently.

## Main definitions

* `Body.HasType`: whether the body of a reply has the type of a kind, with texts that can be read

## Main results

* `Body.hasType_iff`: a body has the type of a kind exactly if it holds a value of the kind
* `Bus.onWire_trusts`: no failure over a wire is about the type of a reply
* `Conversation.call_of_body`: what becomes of a body over a wire
* `mistyped_reply_reported`: a reply of another type, over a wire and over any bus
* `mistyped_reply_disguised`: a number in place of a truth value, both ways
-/

namespace SensorClient

/-! ## Bodies -/

/-- The body of a reply has the type of a kind, and a text in it can be read. -/
structure Body.HasType (b : Body) (k : Kind) : Prop where
  signature : b.map Datum.signature = k.signature
  sendable : b.all Datum.isSendable = true

theorem Body.HasType.filter {k : Kind} {b : Body} (has : b.HasType k) :
    b.filter Datum.isSendable = b := by
  cases b with
  | none => rfl
  | some d => exact Option.filter_some_pos (by simpa using has.sendable)

theorem Body.signature_ofValue {k : Kind} (w : k.Carrier) :
    (Body.ofValue (k.value w)).map Datum.signature = k.signature := by
  cases k <;> rfl

/-- A body has the type of a kind exactly if it holds a value of the kind, and can be read. -/
theorem Body.hasType_iff {k : Kind} (typed : k ≠ .unit) {b : Body} :
    b.HasType k ↔ ∃ w, b.filter Datum.isSendable = Body.ofValue (k.value w) := by
  have declared : k.signature ≠ none := fun none => typed (Kind.signature_injective none)
  constructor
  · intro has
    rw [has.filter]
    cases b with
    | none => exact absurd has.signature.symm declared
    | some d =>
      obtain ⟨w, -, held⟩ := Body.read?_of_signature has.signature
      exact ⟨w, held.symm⟩
  · rintro ⟨w, held⟩
    have signature := Body.signature_ofValue w
    rw [← held] at signature
    cases kept : b.filter Datum.isSendable with
    | none =>
      rw [kept] at signature
      exact absurd signature.symm declared
    | some d =>
      obtain ⟨rfl, sendable⟩ := Option.filter_eq_some_iff.mp kept
      rw [kept] at signature
      exact ⟨signature, by simpa using sendable⟩

/-- What a response says to a call is of the kind that was wanted. -/
theorem Response.kind_of_answer {response : Response} {method : String} {args : List Arg}
    {k : Kind} {v : Value} (answered : response.answer (.call method args k) = .ok v) :
    ∃ w, v = k.value w := by
  cases response with
  | error name message => cases answered
  | body found =>
    unfold answer at answered
    dsimp only at answered
    split at answered
    · next value read =>
      cases answered
      obtain ⟨w, same, -⟩ := Body.of_read? read
      exact ⟨w, same⟩
    · cases answered

/-! ## Failures over a wire -/

/-- A failure is about the type of a reply. -/
def BusError.IsMistyped (e : BusError) : Prop := ∃ member k, e = .replyType member k

section

variable {peer : Peer} {stations : Party → Except String Station}

/-- No failure over a wire is about the type of a reply. -/
theorem Bus.onWire_trusts {past : List Request} {request : Request} {e : BusError}
    (failed : (Bus.onWire peer stations).answer past request = .error e) : ¬ e.IsMistyped := by
  rintro ⟨member, k, rfl⟩
  rcases Bus.onWire_fails failed with ofWire | ⟨method, args, k, -, -, same⟩
  · cases ofWire
  · cases same

namespace Conversation

variable {talk : Conversation} {party : Party} {method : String} {args : List Arg} {k : Kind}

/-- A call over a wire is never found to be answered with a reply of another type. -/
theorem call_not_isMistyped (wired : talk.bus = .onWire peer stations) {e : BusError}
    (failed : (talk.call party k method args).1 = .error e) : ¬ e.IsMistyped := by
  rcases (talk.narrows_call party k method args).refused e |>.mp failed with
    passed | ⟨v, answered, refuses, -⟩
  · rw [wired] at passed
    exact Bus.onWire_trusts passed
  · -- What is read of a response is of the kind that was wanted, so it is not refused.
    rw [wired] at answered
    obtain ⟨message, -, -, response⟩ := answer_onWire_eq_ok_iff.mp answered
    obtain ⟨w, rfl⟩ := Response.kind_of_answer response
    exact absurd (Kind.narrow_eq_some_iff.mp (k.narrow_value w)) (refuses w)

/-- A body that answers a call over a wire is what the call comes to, if it has the type that was
wanted. Any other is taken for a failure of the wire. -/
theorem call_of_body (typed : k ≠ .unit) {b : Body}
    (meets : talk.Meets peer stations ⟨party, .call method args k⟩ (.body b)) :
    (b.HasType k →
        ∃ w, (talk.call party k method args).1 = .ok w ∧ b = Body.ofValue (k.value w)) ∧
      (¬ b.HasType k → ∃ e, (talk.call party k method args).1 = .error e ∧ e.Hides) := by
  constructor
  · intro has
    obtain ⟨w, held⟩ := (Body.hasType_iff typed).mp has
    have read : Body.read? k (b.filter Datum.isSendable) = some (k.value w) := by
      rw [held]
      have own := Body.read?_ofValue (k.value w)
      rwa [k.kind_value] at own
    refine ⟨w, call_of_read meets read, ?_⟩
    rw [← held, has.filter]
  · intro lacks
    rw [meets.call_fst]
    dsimp only [Response.answer]
    cases read : Body.read? k (b.filter Datum.isSendable) with
    | none => exact ⟨_, rfl, ⟨_, rfl⟩, rfl⟩
    | some v =>
      obtain ⟨w, -, held⟩ := Body.of_read? read
      exact absurd ((Body.hasType_iff typed).mpr ⟨w, held typed⟩) lacks

end Conversation

end

/-- What is reported of a reply that does not have the type that was asked for. Over a wire no
failure is ever about the type of a reply: a body that has the type is what the call comes to, and
one that has another is taken for a failure of the wire. Over any bus that hands over a value of
another shape it is a failure that names the method and the kind, and says that the data are
invalid. -/
theorem mistyped_reply_reported {k : Kind} (typed : k ≠ .unit) (talk : Conversation)
    (party : Party) (method : String) (args : List Arg) :
    (∀ (peer : Peer) (stations : Party → Except String Station),
      (∀ b, talk.Meets peer stations ⟨party, .call method args k⟩ (.body b) →
        (b.HasType k →
          ∃ w, (talk.call party k method args).1 = .ok w ∧ b = Body.ofValue (k.value w)) ∧
        (¬ b.HasType k → ∃ e, (talk.call party k method args).1 = .error e ∧ e.Hides)) ∧
      (talk.bus = .onWire peer stations →
        ∀ e, (talk.call party k method args).1 = .error e → ¬ e.IsMistyped)) ∧
      ∀ v, talk.bus.answer talk.log ⟨party, .call method args k⟩ = .ok v →
        (∀ w, ¬ v.Gives k w) →
        (talk.call party k method args).1 = .error (.replyType method k) ∧
          (BusError.replyType method k).exit = .dataInvalid := by
  refine ⟨fun peer stations => ⟨?_, ?_⟩, ?_⟩
  · intro b meets
    exact Conversation.call_of_body typed meets
  · intro wired e failed
    exact Conversation.call_not_isMistyped wired failed
  · intro v answered refuses
    refine ⟨?_, rfl⟩
    exact ((talk.narrows_call party k method args).refused _).mpr
      (.inr ⟨v, answered, refuses, rfl⟩)

/-! ## A number in place of a truth value -/

/-- A peer that says 7 when it is asked whether the sensor has a buffer. -/
def Peer.counting : Peer := .scripted ⟨[("hwBuffering", [.body (some (.int32 7))])], []⟩

/-- A talk with that peer. -/
def Conversation.counted : Conversation := .begin (.onWire .counting lightStations)

/-- A talk over a bus in memory that says 7 to everything. -/
def Conversation.countedInMemory : Conversation :=
  .begin ⟨fun _ _ => .ok (.int 7), fun _ => true⟩

theorem mistyped_reply_reported_number :
    (∃ e, (Conversation.counted.call .channel .bool "hwBuffering" []).1 = .error e ∧ e.Hides) ∧
      (Conversation.counted.call .channel .int "hwBuffering" []).1 = .ok 7 ∧
      (Conversation.countedInMemory.call .channel .bool "hwBuffering" []).1 =
        .error (.replyType "hwBuffering" .bool) := by
  obtain ⟨wire, -⟩ := mistyped_reply_reported (k := .bool) nofun .counted .channel "hwBuffering" []
  obtain ⟨wireInt, -⟩ := mistyped_reply_reported (k := .int) nofun .counted .channel "hwBuffering" []
  obtain ⟨-, memory⟩ := mistyped_reply_reported (k := .bool) nofun .countedInMemory .channel
    "hwBuffering" []
  refine ⟨?_, ?_, ?_⟩
  · apply ((wire .counting lightStations).1 (some (.int32 7)) ⟨rfl, rfl, _, rfl, rfl⟩).2
    rintro ⟨signature, -⟩
    exact absurd signature (by decide)
  · obtain ⟨has, -⟩ :=
      (wireInt .counting lightStations).1 (some (.int32 7)) ⟨rfl, rfl, _, rfl, rfl⟩
    obtain ⟨w, replied, held⟩ := has ⟨rfl, rfl⟩
    cases held
    exact replied
  · exact (memory (.int 7) rfl nofun).1

/-- A number that a call gets in place of a truth value is not reported as a reply of another type
over a wire, but as a failure of the wire, and ends a command as one; over a bus in memory the same
number is. -/
theorem mistyped_reply_disguised :
    Conversation.counted.Meets .counting lightStations ⟨.channel, .call "hwBuffering" [] .bool⟩
        (.body (some (.int32 7))) ∧
      (some (Datum.int32 7)).map Datum.signature ≠ Kind.bool.signature ∧
      (Conversation.counted.call .channel .bool "hwBuffering" []).1 ≠
        .error (.replyType "hwBuffering" .bool) ∧
      (Conversation.counted.call .channel .bool "hwBuffering" []).1 =
        .error (.transport (.wire "reply to hwBuffering has another signature")) ∧
      (BusError.transport (.wire "reply to hwBuffering has another signature")).exit =
        .transportError ∧
      (Conversation.countedInMemory.call .channel .bool "hwBuffering" []).1 =
        .error (.replyType "hwBuffering" .bool) ∧
      (BusError.replyType "hwBuffering" .bool).exit = .dataInvalid := by
  refine ⟨⟨rfl, rfl, _, rfl, rfl⟩, by decide, ?_, ?_, rfl, rfl, rfl⟩
  · decide +kernel
  · decide +kernel

end SensorClient
