import SensorClient.Bytes
import SensorClient.Json.Writer

/-!
# Forms of output

Every report can be had in four forms: a document for programs, a table, text to read, and the
bare data.

## Main definitions

* `Format`: the four forms
* `Report.line`, `Report.document`: the bytes of a line and of a document on a line
-/

namespace SensorClient

/-- The form in which something is printed. -/
inductive Format where
  | json
  | table
  | pretty
  | raw
deriving DecidableEq, Repr

/-- The form with a given name. -/
def Format.ofName? : String → Option Format
  | "json" => some json
  | "table" => some table
  | "pretty" => some pretty
  | "raw" => some raw
  | _ => none

/-- The form taken when none is asked for: a table for people, a document for programs. -/
def Format.initial (terminal : Bool) : Format := if terminal then table else json

namespace Report

/-- The bytes of a line. -/
def line (text : String) : Bytes := Bytes.ofText (text ++ "\n")

/-- The bytes of several lines. -/
def lines (texts : List String) : Bytes := texts.flatMap line

/-- The bytes of a document on a line of its own. -/
def document (members : List (String × Json)) : Bytes := line (Json.ofMembers members).write

/-- The name under which the shape of a document is published. -/
def schema (name : String) : Json :=
  .ofText s!"https://schemas.3leaps.dev/sensorchan/cli/v1/{name}.schema.json"

/-- A text filled up with spaces to so many characters. -/
def padded (length : Nat) (text : String) : String :=
  text ++ String.ofList (List.replicate (length - text.length) ' ')

end Report

end SensorClient
