import SensorClient.Control.Error

/-!
# Talking over the control bus

A client asks two parties: the manager, who hands out sessions, and the channel of one sensor. All
that a bus can do is to answer, and its answer may depend on every request so far. A conversation
keeps the requests in the order in which they were made.

## Main definitions

* `Request`: a call or a property read, and whom it is put to
* `Bus`: the answer to each request, given the ones before it
* `Conversation`: a bus and the requests made so far
* `Conversation.call`, `Conversation.property`: one more request, its answer narrowed to a kind
* `Conversation.requestsTo`: the requests put to one party
-/

namespace SensorClient

/-- Whom a request is put to. -/
inductive Party where
  | manager
  | channel
deriving DecidableEq, Repr

/-- What is asked. -/
inductive Inquiry where
  | call (method : String) (args : List Arg) (want : Kind)
  | property (name : String)
deriving DecidableEq, Repr

/-- The method or property that an inquiry names. -/
def Inquiry.member : Inquiry → String
  | call method _ _ => method
  | property name => name

/-- One thing asked of one party. -/
structure Request where
  party : Party
  inquiry : Inquiry
deriving DecidableEq, Repr

/-- How requests are answered: `answer past request` follows the requests in `past`. -/
structure Bus where
  answer : List Request → Request → Except BusError Value
  isValid : Party → Bool

/-- A bus, and the requests made on it, first one first. -/
structure Conversation where
  bus : Bus
  log : List Request

namespace Conversation

/-- A conversation that has not begun. -/
def begin (bus : Bus) : Conversation := ⟨bus, []⟩

/-- Makes one more request. -/
def ask (talk : Conversation) (request : Request) : Except BusError Value × Conversation :=
  (talk.bus.answer talk.log request, { talk with log := talk.log ++ [request] })

@[simp] theorem log_ask (talk : Conversation) (request : Request) :
    (talk.ask request).2.log = talk.log ++ [request] := rfl

@[simp] theorem bus_ask (talk : Conversation) (request : Request) :
    (talk.ask request).2.bus = talk.bus := rfl

/-- Calls a method and narrows the reply. -/
def call (talk : Conversation) (party : Party) (k : Kind) (method : String) (args : List Arg) :
    Reply k.Carrier × Conversation :=
  let (answer, talk) := talk.ask ⟨party, .call method args k⟩
  (answer.bind (k.replyTo method), talk)

/-- Reads a property and narrows its value. -/
def property (talk : Conversation) (party : Party) (k : Kind) (name : String) :
    Reply k.Carrier × Conversation :=
  let (answer, talk) := talk.ask ⟨party, .property name⟩
  (answer.bind (k.replyTo name), talk)

@[simp] theorem log_call (talk : Conversation) (party : Party) (k : Kind) (method : String)
    (args : List Arg) :
    (talk.call party k method args).2.log = talk.log ++ [⟨party, .call method args k⟩] := rfl

@[simp] theorem log_property (talk : Conversation) (party : Party) (k : Kind) (name : String) :
    (talk.property party k name).2.log = talk.log ++ [⟨party, .property name⟩] := rfl

/-- The requests put to one party, in order. -/
def requestsTo (talk : Conversation) (party : Party) : List Inquiry :=
  talk.log.filterMap fun request =>
    if request.party = party then some request.inquiry else none

end Conversation

/-- A bus that nobody can reach, for a reason. -/
def Bus.unreachable (reason : String) : Bus :=
  ⟨fun _ _ => .error (.connection reason), fun _ => false⟩

end SensorClient
