import SensorClient.Command.Exit
import SensorClient.Proofs.Wire.Sending
import SensorClient.Wire.Script

/-!
# Error replies

The other side may answer with an error, which has a name and may have a text. It is reported by
that name and text whatever wraps it, as long as it does not come in the form of the standard names
where a bare failure is expected: there it is taken for a failure of the wire, and its name no
longer decides how a command ends. A call never meets that form, and a property read meets it for
every standard name.

## Main definitions

* `WireError.reply?`, `StandardError.reply?`: the error reply in a failure
* `BusError.Tells`, `BusError.Hides`: an error reply is reported, or taken for something else
* `Conversation.Meets`: a request gets a response over the wire

## Main results

* `WireError.reports`, `StandardError.reports`: which forms hide an error reply
* `Conversation.reports_call`, `Conversation.reports_property`: which requests meet such a form
* `error_reply_reported`: what is reported of an error reply
-/

namespace SensorClient

/-! ## The reply in a failure -/

mutual

/-- The error reply in a failure, however deep it is wrapped: its name and its text, which is empty
where it has none. -/
def WireError.reply? : WireError → Option (String × String)
  | .method name message => some (name, message.getD "")
  | .standard e => e.reply?
  | .other _ => none

@[inherit_doc WireError.reply?]
def StandardError.reply? : StandardError → Option (String × String)
  | .named name message => some (name, message)
  | .wrapped e => e.reply?

end

/-- Whether a failure comes in the form of the standard names. -/
def WireError.isStandard : WireError → Bool
  | .standard _ => true
  | _ => false

/-- Whether a failure in the form of the standard names wraps another one in that form. -/
def StandardError.wrapsStandard : StandardError → Bool
  | .wrapped e => e.isStandard
  | .named _ _ => false

/-- The text of an error reply as it is read, empty where there is none. -/
def Response.errorText (message : Option String) : String :=
  (message.filter Name.isSendable).getD ""

/-! ## What is reported -/

namespace BusError

/-- Whether the name of an error says that permission was denied. -/
def deniesAccess (name : String) : Bool := "AccessDenied".toList.isSuffixOf name.toList

/-- An error reply is reported by its name and text, and the name decides how a command ends. -/
structure Tells (e : BusError) (name text : String) : Prop where
  remote : e = .remote name text
  exit : e.exit = if deniesAccess name then .permissionDenied else .failure

/-- An error reply is taken for a failure of the wire, whatever its name. -/
structure Hides (e : BusError) : Prop where
  transport : ∃ text, e = .transport (.wire text)
  exit : e.exit = .transportError

/-- What becomes of an error reply that is hidden or not. -/
def Reports (e : BusError) (hidden : Bool) (name text : String) : Prop :=
  if hidden then e.Hides else e.Tells name text

theorem Reports.of_remote (name text : String) :
    (BusError.remote name text).Reports false name text :=
  ⟨rfl, rfl⟩

theorem Reports.of_wire (name text wording : String) :
    (BusError.transport (.wire wording)).Reports true name text :=
  ⟨⟨wording, rfl⟩, rfl⟩

end BusError

/-- A failure on the wire hides the error reply in it exactly if it is in the form of the standard
names. -/
theorem WireError.reports {e : WireError} {name text : String}
    (carried : e.reply? = some (name, text)) : e.busError.Reports e.isStandard name text := by
  cases e with
  | method name message =>
    cases carried
    exact .of_remote name _
  | standard e => exact .of_wire name text e.text
  | other wording => cases carried

/-- A failure in the form of the standard names hides the error reply in it exactly if there is
another one of that form between them. -/
theorem StandardError.reports {e : StandardError} {name text : String}
    (carried : e.reply? = some (name, text)) : e.busError.Reports e.wrapsStandard name text := by
  cases e with
  | named name message =>
    cases carried
    exact .of_remote name text
  | wrapped e => exact WireError.reports (e := e) carried

/-! ## What a request meets -/

section

variable {peer : Peer} {stations : Party → Except String Station} {talk : Conversation}
  {party : Party} {name : String} {message : Option String}

/-- A request is sent over a wire that is whole, and gets this response. -/
structure Conversation.Meets (talk : Conversation) (peer : Peer)
    (stations : Party → Except String Station) (request : Request) (response : Response) :
    Prop where
  wired : talk.bus = .onWire peer stations
  whole : talk.log.any (cutsWire stations) = false
  sent : ∃ message, request.message? stations = some message ∧
    peer.respond (messages stations talk.log) message = response

/-- The answer over a wire is what the response says. -/
theorem Conversation.Meets.answer {request : Request} {response : Response}
    (meets : talk.Meets peer stations request response) :
    talk.bus.answer talk.log request = response.answer request.inquiry := by
  obtain ⟨wired, whole, message, written, rfl⟩ := meets
  rw [wired]
  dsimp only [Bus.onWire]
  -- A request that is sent as a message has a station, and the station's message is that one.
  revert written
  unfold Request.message?
  cases stations request.party with
  | error reason => nofun
  | ok station =>
    dsimp only
    cases station.message request.inquiry with
    | error e => nofun
    | ok composed =>
      rintro ⟨⟩
      dsimp only
      rw [whole, if_neg Bool.false_ne_true]

/-- The reply to a call over a wire is what the response says, narrowed. -/
theorem Conversation.Meets.call_fst {k : Kind} {method : String} {args : List Arg}
    {response : Response} (meets : talk.Meets peer stations ⟨party, .call method args k⟩ response) :
    (talk.call party k method args).1 =
      (response.answer (.call method args k)).bind (k.replyTo method) := by
  rw [← meets.answer]
  rfl

/-- The reply to a property read over a wire is what the response says, narrowed. -/
theorem Conversation.Meets.property_fst {k : Kind} {property : String} {response : Response}
    (meets : talk.Meets peer stations ⟨party, .property property⟩ response) :
    (talk.property party k property).1 =
      (response.answer (.property property)).bind (k.replyTo property) := by
  rw [← meets.answer]
  rfl

/-- A call reports an error reply, whatever its name. -/
theorem Conversation.reports_call {k : Kind} {method : String} {args : List Arg}
    (meets : talk.Meets peer stations ⟨party, .call method args k⟩ (.error name message)) :
    ∃ e, (talk.call party k method args).1 = .error e ∧
      e.Reports false name (Response.errorText message) := by
  refine ⟨.remote name (Response.errorText message), ?_, .of_remote name _⟩
  rw [meets.call_fst]
  rfl

/-- A property read hides an error reply exactly if its name is a standard one. -/
theorem Conversation.reports_property {k : Kind} {property : String}
    (meets : talk.Meets peer stations ⟨party, .property property⟩ (.error name message)) :
    ∃ e, (talk.property party k property).1 = .error e ∧
      e.Reports (decide (name ∈ standardNames)) name (Response.errorText message) := by
  refine ⟨(WireError.ofProperty name (message.filter Name.isSendable)).busError, ?_, ?_⟩
  · rw [meets.property_fst]
    rfl
  · unfold WireError.ofProperty
    by_cases standard : name ∈ standardNames
    · rw [if_pos standard, decide_eq_true standard]
      exact .of_wire name _ _
    · rw [if_neg standard, decide_eq_false standard]
      exact .of_remote name _

end

/-- What is reported of an error reply with a name. In a failure on the wire it is hidden exactly if
that is in the form of the standard names, and in a failure of that form exactly if there is another
one of that form in between. So a call always tells it, and a property read hides it exactly if the
name is a standard one. Where it is told, the name alone decides how a command ends, and it is not
taken for a failure of the wire. -/
theorem error_reply_reported (name : String) :
    (∀ (e : WireError) (text : String), e.reply? = some (name, text) →
        e.busError.Reports e.isStandard name text) ∧
      (∀ (e : StandardError) (text : String), e.reply? = some (name, text) →
        e.busError.Reports e.wrapsStandard name text) ∧
      ∀ (talk : Conversation) (peer : Peer) (stations : Party → Except String Station)
        (party : Party) (k : Kind) (message : Option String),
        (∀ method args, talk.Meets peer stations ⟨party, .call method args k⟩
            (.error name message) →
          ∃ e, (talk.call party k method args).1 = .error e ∧
            e.Reports false name (Response.errorText message)) ∧
        ∀ property, talk.Meets peer stations ⟨party, .property property⟩ (.error name message) →
          ∃ e, (talk.property party k property).1 = .error e ∧
            e.Reports (decide (name ∈ standardNames)) name (Response.errorText message) := by
  refine ⟨fun _ _ => WireError.reports, fun _ _ => StandardError.reports, ?_⟩
  intro talk peer stations party k message
  exact ⟨fun _ _ meets => talk.reports_call meets, fun _ meets => talk.reports_property meets⟩

/-! ## A refusal that is told and hidden -/

/-- The standard name of a refusal. -/
def refusal : String := standardStem ++ "AccessDenied"

/-- A peer that refuses both a call and a property read. -/
def Peer.refusing : Peer :=
  .scripted ⟨[("hwBuffering", [.error refusal (some "no")])],
    [("interval", [.error refusal (some "no")])]⟩

/-- The channel of the light sensor, whoever is asked. -/
def lightStations : Party → Except String Station := fun _ =>
  .ok ⟨"com.nokia.SensorService", "/SensorManager/alssensor", "local.ALSSensor", true⟩

/-- A talk with that peer. -/
def Conversation.refused : Conversation := .begin (.onWire .refusing lightStations)

theorem error_reply_reported_refusal :
    (StandardError.wrapped (.method refusal none)).busError.Reports false refusal "" ∧
      (WireError.standard (.named refusal "no")).busError.Reports true refusal "no" ∧
      (∃ e, (Conversation.refused.call .channel .bool "hwBuffering" []).1 = .error e ∧
        e.Tells refusal "no") ∧
      ∃ e, (Conversation.refused.property .channel .int "interval").1 = .error e ∧ e.Hides := by
  obtain ⟨wire, standard, met⟩ := error_reply_reported refusal
  refine ⟨standard _ _ rfl, wire _ _ rfl, ?_, ?_⟩
  · exact (met .refused .refusing lightStations .channel .bool (some "no")).1 "hwBuffering" []
      ⟨rfl, rfl, _, rfl, rfl⟩
  · exact (met .refused .refusing lightStations .channel .int (some "no")).2 "interval"
      ⟨rfl, rfl, _, rfl, rfl⟩

/-- A refusal in the form of the standard names, as a property read gets it, is taken for a failure
of the wire; the same refusal of a call is told, and so it is in the other forms. -/
theorem refusal_hidden_from_property :
    (WireError.standard (.named refusal "no")).reply? = some (refusal, "no") ∧
      (WireError.standard (.named refusal "no")).busError ≠ .remote refusal "no" ∧
      (WireError.standard (.named refusal "no")).busError.exit = .transportError ∧
      (StandardError.named refusal "no").busError.exit = .permissionDenied ∧
      (WireError.method refusal (some "no")).busError.exit = .permissionDenied ∧
      (Conversation.refused.call .channel .bool "hwBuffering" []).1 =
        .error (.remote refusal "no") ∧
      (Conversation.refused.property .channel .int "interval").1 =
        .error (.transport (.wire "org.freedesktop.DBus.Error.AccessDenied: no")) := by
  refine ⟨rfl, nofun, rfl, ?_, ?_, rfl, ?_⟩
  · decide +kernel
  · decide +kernel
  · decide +kernel

end SensorClient
