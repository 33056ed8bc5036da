import DeclaredDebt.Report.Json
import DeclaredDebt.Report.Sarif
import DeclaredDebt.Report.Text

/-!
# Output formats

A report is written as text for a terminal, as JSON or as SARIF. The name of a format is read in
any mixture of cases, and text goes by three names.
-/

namespace DeclaredDebt

/-- How a report is written. -/
inductive Format where
  | text
  | json
  | sarif
  deriving DecidableEq

/-- No format goes by this name. -/
structure UnknownFormat where
  name : String
  deriving DecidableEq

/-- Says which name was asked for. -/
def UnknownFormat.message (e : UnknownFormat) : String :=
  "Unknown format '" ++ e.name ++ "'. Valid formats: text, json, sarif"

namespace Format

/-- The name a format is printed with. -/
def name : Format → String
  | .text => "text"
  | .json => "json"
  | .sarif => "sarif"

/-- Reads the name of a format. Only ASCII letters have another case here, since no other letter
becomes one of a format's name. -/
def ofName (name : String) : Except UnknownFormat Format :=
  let lower := name.map Char.toLower
  if lower = "text" ∨ lower = "txt" ∨ lower = "terminal" then .ok .text
  else if lower = "json" then .ok .json
  else if lower = "sarif" then .ok .sarif
  else .error ⟨name⟩

/-- A report in a format; SARIF also says when the analysis ended. -/
def render (f : Format) (endTime : String) (r : Report) : String :=
  match f with
  | .text => TextReport.render r
  | .json => r.renderJson
  | .sarif => Sarif.render endTime r

/-- The list of rules in a format; SARIF has no such list of its own and uses JSON. -/
def renderRules : Format → String
  | .text => TextReport.renderRules
  | .json => (Json.array (Bucket.registry.map Bucket.toJson)).pretty
  | .sarif => (Json.array (Bucket.registry.map Bucket.toJson)).pretty

end Format

end DeclaredDebt
