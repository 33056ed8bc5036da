import DeclaredDebt.Literal
import DeclaredDebt.Tiers
import DeclaredDebt.Usage

/-!
# Declared debt

Which attribute usages declare technical debt, and how many days. An attribute counts by the last
part of its name, in any mixture of ASCII cases. Its cost is the number in the first argument that
is named `SqaleRemediationDaysEffort`; without such an argument, or without an integer in it, the
cost is zero. A cost above `Literal.maxDays` is an error.

## Main definitions

* `isTargetName`: the names that declare debt.
* `remediationDays`: the cost a usage declares.
* `Usage.debt?`: the debt that a usage declares, or none.
-/

namespace DeclaredDebt

/-- Why a usage cannot be analysed. -/
inductive DebtError where
  /-- The attribute has no name to go by. -/
  | malformedName (location : Location)
  /-- The cost does not fit a day count. -/
  | overflow (literal : String) (location : Location)
  /-- A bucket was asked for that is not in the registry. -/
  | unknownBucket (cause : UnknownBucket)
  deriving DecidableEq

/-- The wording of an error. -/
def DebtError.message : DebtError → String
  | .malformedName location => "attribute at " ++ location.render ++ " has no resolvable name"
  | .overflow literal location =>
    "remediation cost '" ++ literal ++ "' at " ++ location.render ++ " exceeds " ++
      toString Literal.maxDays ++ " days"
  | .unknownBucket cause => cause.message

/-- The debt that a usage declares. -/
structure Debt where
  name : String
  displayName : String
  location : Location
  days : Nat
  deriving DecidableEq

/-- The attribute's name, without and with the ending that C# lets one leave out. -/
def targetNames : List String := ["ManualTechnicalDebt", "ManualTechnicalDebtAttribute"]

/-- The name of the argument that holds the cost. -/
def costArgumentName : String := "SqaleRemediationDaysEffort"

/-- A text with its ASCII capitals made small. -/
def asciiLower (text : String) : List Char := text.toList.map Char.toLower

/-- Whether a name declares debt; the case of ASCII letters does not matter. -/
def isTargetName (name : String) : Bool :=
  targetNames.any fun target => asciiLower target == asciiLower name

namespace Usage

/-- The name a usage goes by. -/
def resolvedName (u : Usage) : Except DebtError String :=
  match u.name?.bind AttributeName.simpleName? with
  | some name => .ok name
  | none => .error (.malformedName u.location)

/-- The first argument that holds a cost. -/
def costArgument? (u : Usage) : Option Argument :=
  u.arguments.find? fun a => a.name? == some costArgumentName

/-- The cost of a usage in days. -/
def remediationDays (u : Usage) : Except DebtError Nat :=
  match u.costArgument?.bind Argument.literal? with
  | none => .ok 0
  | some literal =>
    match Literal.read literal.toList with
    | .days n => .ok n
    | .notInteger => .ok 0
    | .overflow => .error (.overflow literal u.location)

/-- The debt that a usage declares. A usage without a name, or with another one, declares none. -/
def debt? (u : Usage) : Except DebtError (Option Debt) :=
  match u.resolvedName with
  | .error _ => .ok none
  | .ok name =>
    if isTargetName name then
      u.remediationDays.map fun days =>
        some { name, displayName := u.displayName, location := u.location, days }
    else .ok none

end Usage

end DeclaredDebt
