import DeclaredDebt.Json.Decode
import DeclaredDebt.Report

/-!
# Reports as JSON

How the parts of a report are written as JSON values and read back. Members stand in a fixed
order; on reading, members that can be left out take the values of an empty report.
-/

namespace DeclaredDebt

/-- Lines, columns and costs are below this limit. -/
def Report.wordLimit : Nat := Nat.pow 2 32

/-- Counts, offsets and times are below this limit. -/
def Report.longLimit : Nat := Nat.pow 2 64

namespace Location

def toJson (l : Location) : Json :=
  .object [("file", .string l.file.text), ("line", .nat l.line), ("column", .nat l.column),
    ("start_byte", .nat l.startByte), ("end_byte", .nat l.endByte)]

def ofJson? (v : Json) : Option Location := do
  match ← v.record? ["file", "line", "column", "start_byte", "end_byte"] with
  | [file, line, column, startByte, endByte] =>
    let file ← Json.required file Json.asText?
    let line ← Json.required line (Json.asNat? Report.wordLimit)
    let column ← Json.required column (Json.asNat? Report.wordLimit)
    let startByte ← Json.optional startByte 0 (Json.asNat? Report.longLimit)
    let endByte ← Json.optional endByte 0 (Json.asNat? Report.longLimit)
    return { file := ⟨file⟩, line, column, startByte, endByte }
  | _ => none

end Location

namespace Diagnostic

def toJson (d : Diagnostic) : Json :=
  .object [("id", .string d.id), ("rule_id", .string d.ruleId),
    ("remediation_cost_days", .nat d.days), ("severity", .string d.severity.name),
    ("category", .string d.category), ("title", .string d.title), ("message", .string d.message),
    ("location", d.location.toJson), ("display_name", .string d.displayName)]

def ofJson? (v : Json) : Option Diagnostic := do
  match ← v.record? ["id", "rule_id", "remediation_cost_days", "severity", "category", "title",
      "message", "location", "display_name"] with
  | [id, ruleId, days, severity, category, title, message, location, displayName] =>
    let id ← Json.optional id "" Json.asText?
    let ruleId ← Json.required ruleId Json.asText?
    let days ← Json.required days (Json.asNat? Report.wordLimit)
    let severity ← Json.optional severity Severity.info Json.asSeverity?
    let category ← Json.optional category "" Json.asText?
    let title ← Json.optional title "" Json.asText?
    let message ← Json.optional message "" Json.asText?
    let location ← Json.required location Location.ofJson?
    let displayName ← Json.optional displayName "" Json.asText?
    return { id, ruleId, days, severity, category, title, message, location, displayName }
  | _ => none

end Diagnostic

namespace Tally

def toJson (t : Tally) : Json := .object (t.entries.map fun e => (e.1, .nat e.2))

/-- Reads an object of counts; of two for one name the later holds. -/
def ofJson? : Json → Option Tally
  | .object members =>
    (members.mapM fun (m : String × Json) =>
      (m.2.asNat? Report.longLimit).map fun n => (m.1, n)).map ofEntries
  | _ => none

end Tally

namespace Summary

def toJson (s : Summary) : Json :=
  .object [("total", .nat s.total), ("total_days", .nat s.totalDays),
    ("by_rule", s.byRule.toJson), ("files_with_debt", .nat s.filesWithDebt)]

def ofJson? (v : Json) : Option Summary := do
  match ← v.record? ["total", "total_days", "by_rule", "files_with_debt"] with
  | [total, totalDays, byRule, filesWithDebt] =>
    let total ← Json.required total (Json.asNat? Report.longLimit)
    let totalDays ← Json.required totalDays (Json.asNat? Report.longLimit)
    let byRule ← Json.required byRule Tally.ofJson?
    let filesWithDebt ← Json.required filesWithDebt (Json.asNat? Report.longLimit)
    return { total, totalDays, byRule, filesWithDebt }
  | _ => none

end Summary

namespace FileError

def toJson (e : FileError) : Json :=
  .object [("file", .string e.file.text), ("message", .string e.message)]

def ofJson? (v : Json) : Option FileError := do
  match ← v.record? ["file", "message"] with
  | [file, message] =>
    let file ← Json.required file Json.asText?
    let message ← Json.required message Json.asText?
    return { file := ⟨file⟩, message }
  | _ => none

end FileError

namespace Report

def toJson (r : Report) : Json :=
  .object [("diagnostics", .array (r.diagnostics.map Diagnostic.toJson)),
    ("summary", r.summary.toJson), ("files_analyzed", .nat r.filesAnalyzed),
    ("annotations_matched", .nat r.annotationsMatched),
    ("errors", .array (r.errors.map FileError.toJson)), ("duration_ms", .nat r.durationMs)]

def ofJson? (v : Json) : Option Report := do
  match ← v.record? ["diagnostics", "summary", "files_analyzed", "annotations_matched", "errors",
      "duration_ms"] with
  | [diagnostics, summary, filesAnalyzed, annotationsMatched, errors, durationMs] =>
    let diagnostics ← Json.required diagnostics (Json.asList? Diagnostic.ofJson?)
    let summary ← Json.required summary Summary.ofJson?
    let filesAnalyzed ← Json.required filesAnalyzed (Json.asNat? longLimit)
    let annotationsMatched ← Json.required annotationsMatched (Json.asNat? longLimit)
    let errors ← Json.optional errors [] (Json.asList? FileError.ofJson?)
    let durationMs ← Json.optional durationMs 0 (Json.asNat? longLimit)
    return { diagnostics, summary, filesAnalyzed, annotationsMatched, errors, durationMs }
  | _ => none

/-- The whole report as JSON text. -/
def renderJson (r : Report) : String := r.toJson.pretty

end Report

namespace Bucket

def toJson (b : Bucket) : Json :=
  .object [("identifier", .string b.identifier), ("remediation_cost_days", .nat b.days),
    ("title_template", .string titleTemplate), ("message_template", .string messageTemplate),
    ("description", .string description), ("category", .string category),
    ("severity", .string defaultSeverity.name), ("enabled_by_default", .bool enabledByDefault)]

end Bucket

end DeclaredDebt
