import DeclaredDebt.Severity
import DeclaredDebt.Text.Replace

/-!
# Buckets

Costs are reported in fixed buckets: one for each day count from 1 to 9 and one for each multiple
of ten from 10 to 90. A bucket has an identifier of its own and renders its title and message from
a template. `Bucket.registry` lists all of them, and a bucket is found in it by identifier or cost.
-/

namespace DeclaredDebt

/-- A day count that diagnostics are reported under. -/
structure Bucket where
  days : Nat
  deriving DecidableEq

/-- No bucket goes by this identifier. -/
structure UnknownBucket where
  identifier : String
  deriving DecidableEq

/-- Says which identifier was asked for. -/
def UnknownBucket.message (e : UnknownBucket) : String :=
  "no diagnostic bucket registered as '" ++ e.identifier ++ "'"

namespace Bucket

/-- The identifier for a cost, whether or not there is a bucket for it. -/
def identifierFor (days : Nat) : String :=
  if days = 1 then "ManualDebt1Day" else "ManualDebt" ++ toString days ++ "Days"

/-- A day count with its unit. -/
def label (days : Nat) : String :=
  if days = 1 then "1 day" else toString days ++ " days"

def identifier (b : Bucket) : String := identifierFor b.days

def titleTemplate : String := "Manual technical debt: \x7bdays\x7d"

def messageTemplate : String := "'\x7bname\x7d' declares \x7bdays\x7d of manual technical debt"

def description : String :=
  "Remediation cost declared with the ManualTechnicalDebt attribute. " ++
  "Costs are reported as fixed buckets: a tens bucket plus an optional ones bucket, " ++
  "with anything of 100 days or more reported as 90 + 9 days."

def category : String := "TechnicalDebt"

/-- The severity of a bucket when nothing else is asked for. -/
def defaultSeverity : Severity := .info

def enabledByDefault : Bool := true

/-- The word that stands for the cost in a template. -/
def daysWord : List Char := "\x7bdays\x7d".toList

/-- The word that stands for the attribute's name in a template. -/
def nameWord : List Char := "\x7bname\x7d".toList

/-- The title with the cost filled in. -/
def title (b : Bucket) : String :=
  String.ofList (Text.replace daysWord (label b.days).toList titleTemplate.toList)

/-- The message for an attribute as written: the name is filled in first, then the cost. -/
def message (b : Bucket) (displayName : String) : String :=
  let named := Text.replace nameWord displayName.toList messageTemplate.toList
  String.ofList (Text.replace daysWord (label b.days).toList named)

/-- The costs that have a bucket, in the order of the registry. -/
def registeredCosts : List Nat :=
  (List.range' 1 9) ++ (List.range' 10 9 10)

/-- Every bucket, in order. -/
def registry : List Bucket := registeredCosts.map Bucket.mk

/-- The bucket that goes by an identifier. -/
def ofIdentifier (identifier : String) : Except UnknownBucket Bucket :=
  match registry.find? fun b => b.identifier == identifier with
  | some b => .ok b
  | none => .error ⟨identifier⟩

/-- The bucket for a cost. -/
def ofCost (days : Nat) : Except UnknownBucket Bucket := ofIdentifier (identifierFor days)

end Bucket

end DeclaredDebt
