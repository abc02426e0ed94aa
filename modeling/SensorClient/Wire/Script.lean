import SensorClient.Wire.Bus

/-!
# Peers that follow a script

## Main definitions

* `WireScript`: what each method and each property is answered, in turn
* `Peer.scripted`: the peer that follows a script
-/

namespace SensorClient

/-- The responses to each method and each property, in turn; the last one stands for all later
messages. A method without responses is answered with nothing, and a property without any does not
exist. -/
structure WireScript where
  calls : List (String × List Response)
  properties : List (String × List Response)

namespace WireScript

/-- The response at a turn. -/
def inTurn (responses : List Response) (turn : Nat) : Option Response :=
  responses[turn]? <|> responses.getLast?

/-- Whether two contents ask the same member. -/
def sameMember : Content → Content → Bool
  | .call a _, .call b _ => a == b
  | .get a, .get b => a == b
  | _, _ => false

/-- The response to a message that follows others. -/
def respond (script : WireScript) (past : List Message) (message : Message) : Response :=
  let turn := past.countP fun earlier => sameMember earlier.content message.content
  match message.content with
  | .call member _ =>
    (((script.calls.lookup member).bind fun responses => inTurn responses turn)).getD (.body none)
  | .get property =>
    (((script.properties.lookup property).bind fun responses => inTurn responses turn)).getD
      (.error (standardStem ++ "UnknownProperty") (some property))

end WireScript

/-- The peer that follows a script. -/
def Peer.scripted (script : WireScript) : Peer := ⟨script.respond⟩

end SensorClient
