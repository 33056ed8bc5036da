/-!
# Severities

A diagnostic is an information, a warning or an error. `Severity.name` and `Severity.ofName?` are
the only spelling used in reports and settings, and `Severity.rank` orders the three.
-/

namespace DeclaredDebt

/-- How strongly a diagnostic asks for attention. -/
inductive Severity where
  | info
  | warning
  | error
  deriving DecidableEq, Inhabited

namespace Severity

/-- Every severity, from the weakest to the strongest. -/
def all : List Severity := [.info, .warning, .error]

/-- The lower-case word for a severity. -/
def name : Severity → String
  | .info => "info"
  | .warning => "warning"
  | .error => "error"

/-- Reads the lower-case word back; no other spelling is a severity. -/
def ofName? (text : String) : Option Severity :=
  all.find? fun s => s.name == text

/-- The position of a severity in `Severity.all`. -/
def rank : Severity → Nat
  | .info => 0
  | .warning => 1
  | .error => 2

/-- Whether a severity is at most as strong as another. -/
def weakerEq (s t : Severity) : Bool := s.rank ≤ t.rank

/-- Severities from the weakest to the strongest; equal ones keep their number. -/
def sort (values : List Severity) : List Severity :=
  values.mergeSort weakerEq

/-- The strongest of some severities. -/
def strongest? (values : List Severity) : Option Severity :=
  (sort values).getLast?

@[simp] theorem ofName?_name (s : Severity) : ofName? s.name = some s := by
  cases s <;> decide

end Severity

end DeclaredDebt
