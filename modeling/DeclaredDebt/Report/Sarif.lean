import DeclaredDebt.Json
import DeclaredDebt.Report

/-!
# Reports as SARIF

SARIF 2.1.0 is a JSON format for the results of static analyses. A report becomes one run: its
rules are all registered buckets, whether or not they occur, its results are the diagnostics in
order, and its one invocation carries the summary and what could not be analysed.
-/

namespace DeclaredDebt.Sarif

def schema : String :=
  "https://raw.githubusercontent.com/oasis-tcs/sarif-spec/master/Schemata/sarif-schema-2.1.0.json"

def formatVersion : String := "2.1.0"

def toolName : String := "manual-debt"

def toolVersion : String := "0.1.0"

/-- The name under which a result carries the diagnostic's identifier. -/
def fingerprintName : String := "manual-debt/diagnostic/v1"

/-- The level of a severity. -/
def level : Severity → String
  | .error => "error"
  | .warning => "warning"
  | .info => "note"

/-- A text in the form of a message. -/
def message (text : String) : Json := .object [("text", .string text)]

/-- A bucket as a rule. -/
def rule (b : Bucket) : Json :=
  .object [("id", .string b.identifier), ("name", .string b.identifier),
    ("shortDescription", message b.title), ("fullDescription", message Bucket.description),
    ("defaultConfiguration", .object [("enabled", .bool Bucket.enabledByDefault),
      ("level", .string (level Bucket.defaultSeverity))]),
    ("properties", .object [("category", .string Bucket.category),
      ("remediationCostDays", .nat b.days),
      ("tags", .array [.string "maintenance", .string "technical-debt"])])]

/-- The position of a rule in the registry. -/
def ruleIndex? (ruleId : String) : Option Nat :=
  Bucket.registry.findIdx? (·.identifier == ruleId)

/-- Where a diagnostic stands. -/
def location (l : Location) : Json :=
  .object [("physicalLocation", .object [
    ("artifactLocation", .object [("uri", .string l.file.text),
      ("uriBaseId", .string "%SRCROOT%")]),
    ("region", .object [("startLine", .nat l.line), ("startColumn", .nat l.column)])])]

/-- A diagnostic as a result. A rule that is not registered has no index. -/
def result (d : Diagnostic) : Json :=
  .object <|
    [("ruleId", Json.string d.ruleId)] ++
    (ruleIndex? d.ruleId).toList.map (fun i => ("ruleIndex", Json.nat i)) ++
    [("level", .string (level d.severity)), ("message", message d.message),
      ("locations", .array [location d.location]),
      ("fingerprints", .object [(fingerprintName, .string d.id)]),
      ("properties", .object [("severity", .string d.severity.name),
        ("category", .string d.category), ("remediationCostDays", .nat d.days),
        ("attribute", .string d.displayName)])]

/-- A remark of the invocation. -/
def notification (level text id : String) : Json :=
  .object [("level", .string level), ("message", message text),
    ("descriptor", .object [("id", .string id)])]

/-- The summary as a remark. -/
def summaryText (r : Report) : String :=
  "Analysis complete. " ++ toString r.summary.total ++ " diagnostics, " ++
    toString r.summary.totalDays ++ " days of declared debt in " ++ toString r.filesAnalyzed ++
    " files"

/-- The remarks of the invocation: the summary, then every error. -/
def notifications (r : Report) : List Json :=
  notification "note" (summaryText r) "summary" ::
    r.errors.map fun e =>
      notification "error" (e.file.text ++ ": " ++ e.message) "analysis-error"

/-- The whole document, for an analysis that ended at the given time. -/
def document (endTime : String) (r : Report) : Json :=
  .object [("$schema", .string schema), ("version", .string formatVersion),
    ("runs", .array [.object [
      ("tool", .object [("driver", .object [("name", .string toolName),
        ("version", .string toolVersion), ("rules", .array (Bucket.registry.map rule))])]),
      ("results", .array (r.diagnostics.map result)),
      ("invocations", .array [.object [("executionSuccessful", .bool (!r.hasErrors)),
        ("endTimeUtc", .string endTime),
        ("toolExecutionNotifications", .array (notifications r))]])]])]

/-- The document as text. -/
def render (endTime : String) (r : Report) : String := (document endTime r).pretty

end DeclaredDebt.Sarif
