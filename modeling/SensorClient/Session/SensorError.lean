import SensorClient.Json
import SensorClient.Text.Quoted

/-!
# Sensor errors

The daemon numbers its errors. A session keeps one error of its own, which hides whatever the
daemon reports until it is cleared.

## Main definitions

* `SensorError`: an error, its number (`code`) and its wording (`text`)
* `ErrorState`: the error that a session keeps
-/

namespace SensorClient

/-- What is wrong with a sensor. -/
inductive SensorError where
  | noError
  | notConnected
  | notLoaded
  | notAvailable
  | permission
  | clientSocketError
  | unknown (code : Int32)
deriving DecidableEq, Repr, Inhabited

namespace SensorError

/-- The error with a number. -/
def ofCode (code : Int32) : SensorError :=
  if code = 0 then noError
  else if code = 1 then notConnected
  else if code = 2 then notLoaded
  else if code = 3 then notAvailable
  else if code = 4 then permission
  else if code = 5 then clientSocketError
  else unknown code

/-- The number of an error. -/
def code : SensorError → Int32
  | noError => 0
  | notConnected => 1
  | notLoaded => 2
  | notAvailable => 3
  | permission => 4
  | clientSocketError => 5
  | unknown code => code

/-- Reading a number and asking for it gives the number back. -/
@[simp] theorem code_ofCode (code : Int32) : (ofCode code).code = code := by
  unfold ofCode
  repeat' split
  all_goals simp_all [SensorError.code]

/-- The wording of an error. -/
def text : SensorError → String
  | noError => "no error"
  | notConnected => "not connected"
  | notLoaded => "sensor not loaded"
  | notAvailable => "sensor not available"
  | permission => "permission denied"
  | clientSocketError => "client socket error"
  | unknown code => s!"unknown error {code.toInt}"

/-- Whether anything is wrong. -/
def isError (e : SensorError) : Bool := e != noError

/-- The name of an error for inspection. -/
def inspect : SensorError → String
  | noError => "NoError"
  | notConnected => "NotConnected"
  | notLoaded => "NotLoaded"
  | notAvailable => "NotAvailable"
  | permission => "Permission"
  | clientSocketError => "ClientSocketError"
  | unknown code => s!"Unknown({code.toInt})"

/-- The document form: the name, with the number beside it where there is no name. -/
def toJson : SensorError → Json
  | unknown code => .ofMembers [("Unknown", .ofInt code.toInt)]
  | e => .ofText e.inspect

end SensorError

/-- The error that a session keeps. -/
structure ErrorState where
  code : SensorError
  message : String
deriving DecidableEq, Repr

namespace ErrorState

/-- No error. -/
def clear : ErrorState := ⟨.noError, ""⟩

instance : Inhabited ErrorState := ⟨clear⟩

/-- Whether an error is kept. -/
def isSet (state : ErrorState) : Bool := state.code.isError

/-- The text for inspection. -/
def inspect (state : ErrorState) : String :=
  "ErrorState \x7b code: " ++ state.code.inspect ++ ", message: " ++ Text.quoted state.message
    ++ " \x7d"

end ErrorState

end SensorClient
