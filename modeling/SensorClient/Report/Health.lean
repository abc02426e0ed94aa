import SensorClient.Report.Format

/-!
# Whether the daemon can be reached

## Main definitions

* `Check`: one thing looked at, and what was found
* `Health.print`: the report
-/

namespace SensorClient

/-- How a check came out. -/
inductive Finding where
  | pass
  | fail
  | warn
  | info
deriving DecidableEq, Repr

/-- The word for a finding. -/
def Finding.word : Finding → String
  | pass => "pass"
  | fail => "fail"
  | warn => "warn"
  | info => "info"

/-- The mark of a finding. -/
def Finding.mark : Finding → String
  | pass => "PASS"
  | fail => "FAIL"
  | warn => "WARN"
  | info => "INFO"

/-- One thing looked at, and what was found. -/
structure Check where
  name : String
  finding : Finding
  detail : String
deriving DecidableEq, Repr

/-- The members of the document. -/
def Check.toMembers (c : Check) : List (String × Json) :=
  [("name", .ofText c.name), ("status", .ofText c.finding.word), ("detail", .ofText c.detail)]

/-- The line that people read. -/
def Check.text (c : Check) : String :=
  s!"  [{c.finding.mark}] {Report.padded 18 c.name} {c.detail}"

namespace Health

/-- Whether no check failed. -/
def isSound (checks : List Check) : Bool := checks.all fun c => c.finding != .fail

/-- The word for the whole. -/
def overall (checks : List Check) : String :=
  (if isSound checks then Finding.pass else .fail).word

/-- The report as people read it. -/
def texts (checks : List Check) : List String :=
  ["sensorchan doctor", ""] ++ checks.map Check.text ++
    ["", if isSound checks then "  Result: all checks passed"
      else "  Result: one or more checks failed"]

/-- The report. -/
def print (checks : List Check) : Format → Bytes
  | .json =>
    Report.document [("schema_id", Report.schema "doctor-report"),
      ("checks", .arr (checks.map fun c => .ofMembers c.toMembers)),
      ("overall", .ofText (overall checks))]
  | .table | .pretty => Report.lines (texts checks)
  | .raw => Report.line (overall checks)

end Health

end SensorClient
