import SensorClient.Control.Bus

/-!
# Buses that follow a script

A script lists what each method answers, in turn, the last answer standing for all later calls,
and what each property holds. It answers as written, whatever kind was asked for.

## Main definitions

* `Script`: the answers of one party
* `Script.answer`: what the script says to a request
* `Bus.scripted`: the bus on which each party follows its script
-/

namespace SensorClient

/-- What one request is answered. -/
abbrev Answer := Except BusError Value

/-- The answers of one method, the first of them given to the call number `start`. -/
structure Turns where
  method : String
  start : Nat
  answers : List Answer

/-- The answers of one party. -/
structure Script where
  isValid : Bool
  calls : List Turns
  properties : List (String × Answer)
  otherwise : Answer
  /-- Why the party cannot be reached at all, if it cannot. -/
  unavailable : Option String

namespace Script

/-- A script that answers nothing to every call and has no property. -/
def quiet : Script := ⟨true, [], [], .ok .unit, none⟩

/-- The answer at a turn, the last one standing for all after it. -/
def inTurn (answers : List Answer) (turn : Nat) : Option Answer :=
  answers[turn]? <|> answers.getLast?

/-- The number of calls of a method among inquiries. -/
def callsOf (method : String) (past : List Inquiry) : Nat :=
  past.countP fun
    | .call name _ _ => name == method
    | .property _ => false

/-- What the script says to an inquiry that follows others. -/
def answer (script : Script) (past : List Inquiry) : Inquiry → Answer
  | .call method _ _ =>
    match script.calls.find? fun turns => turns.method == method with
    | none => script.otherwise
    | some turns =>
      (inTurn turns.answers (callsOf method past - turns.start)).getD script.otherwise
  | .property name =>
    match script.properties.find? fun entry => entry.1 == name with
    | some entry => entry.2
    | none => .error (.remote "org.freedesktop.DBus.Error.UnknownProperty" name)

/-- Gives a method new answers, which start with its next call. -/
def setCalls (script : Script) (past : List Inquiry) (method : String) (answers : List Answer) :
    Script :=
  { script with
    calls := ⟨method, callsOf method past, answers⟩
      :: script.calls.filter fun turns => turns.method != method }

/-- Gives a property a value, or takes it away. -/
def setProperty (script : Script) (name : String) (value : Option Answer) : Script :=
  let others := script.properties.filter fun entry => entry.1 != name
  { script with
    properties := match value with
      | none => others
      | some value => (name, value) :: others }

end Script

/-- The bus on which each party follows its script. -/
def Bus.scripted (scripts : Party → Script) : Bus where
  answer past request :=
    let script := scripts request.party
    match script.unavailable with
    | some reason => .error (.connection reason)
    | none =>
      script.answer
        (past.filterMap fun earlier =>
          if earlier.party = request.party then some earlier.inquiry else none)
        request.inquiry
  isValid party := (scripts party).isValid && (scripts party).unavailable.isNone

end SensorClient
