import DeclaredDebt.Bucket
import DeclaredDebt.Location
import DeclaredDebt.Md5

/-!
# Diagnostics

One diagnostic is reported per bucket and attribute. Its identifier depends only on the bucket and
the place of the attribute, so that a diagnostic keeps it from run to run.

## Main definitions

* `Diagnostic.idText`: the text an identifier is computed from, one part a line.
* `Diagnostic.idFor`: the first eight bytes of that text's digest, in hexadecimal.
* `Diagnostic.ofBucket`: the diagnostic for a bucket at a place.
-/

namespace DeclaredDebt

/-- One reported bucket for one attribute. -/
structure Diagnostic where
  id : String := ""
  ruleId : String
  days : Nat
  severity : Severity := .info
  category : String := ""
  title : String := ""
  message : String := ""
  location : Location
  displayName : String := ""
  deriving DecidableEq

namespace Diagnostic

/-- The text an identifier is computed from. -/
def idText (ruleId file : String) (line column : Nat) : String :=
  ruleId ++ "\n" ++ file ++ "\n" ++ toString line ++ "\n" ++ toString column

/-- The number of hexadecimal digits in an identifier. -/
def idLength : Nat := 16

/-- The identifier for a rule at a place. -/
def idFor (ruleId file : String) (line column : Nat) : String :=
  let digest := Md5.digest (idText ruleId file line column).toUTF8.toList
  String.ofList ((Md5.hexDigits digest).take idLength)

/-- The diagnostic for a bucket at a place, at the bucket's own severity unless another is given. -/
def ofBucket (severity? : Option Severity) (location : Location) (displayName : String)
    (bucket : Bucket) : Diagnostic where
  id := idFor bucket.identifier location.file.text location.line location.column
  ruleId := bucket.identifier
  days := bucket.days
  severity := severity?.getD Bucket.defaultSeverity
  category := Bucket.category
  title := bucket.title
  message := bucket.message displayName
  location := location
  displayName := displayName

/-- Whether a diagnostic stands before another or at the same place: by file, line and column. -/
def notAfter (d e : Diagnostic) : Bool :=
  let file := d.location.file.key
  let otherFile := e.location.file.key
  decide (file < otherFile ∨ file = otherFile ∧
    (d.location.line < e.location.line ∨ d.location.line = e.location.line ∧
      d.location.column ≤ e.location.column))

end Diagnostic

end DeclaredDebt
