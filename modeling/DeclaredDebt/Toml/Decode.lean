import DeclaredDebt.Severity
import DeclaredDebt.Toml

/-!
# Reading records out of TOML values

A record is written as a table, or as an array of its members in order. What either has beyond the
record's own members is ignored, and members may be missing. A date has none of a record's members.
-/

namespace DeclaredDebt.Toml

/-- The text of a string. -/
def asText? : Toml → Option String
  | .string text => some text
  | _ => none

/-- A natural number below a limit. -/
def asNat? (limit : Nat) : Toml → Option Nat
  | .integer (.ofNat n) => if n < limit then some n else none
  | _ => none

/-- The elements of an array, each read in the same way. -/
def asList? (f : Toml → Option α) : Toml → Option (List α)
  | .array elements => elements.mapM f
  | _ => none

/-- The members of a record with the given names, each with its value if it is there. -/
def record? (names : List String) : Toml → Option (List (Option Toml))
  | .table members => some (names.map fun name => members.lookup name)
  | .array elements => some ((List.range names.length).map fun i => elements[i]?)
  | .date => some (names.map fun _ => none)
  | _ => none

/-- Whether a value is a table or an array of nothing. -/
def isVoid : Toml → Bool
  | .table [] => true
  | .array [] => true
  | _ => false

/-- A severity is written as its word, or as a table whose one member is that word with nothing. -/
def asSeverity? : Toml → Option Severity
  | .string text => Severity.ofName? text
  | .table [(name, v)] => if v.isVoid then Severity.ofName? name else none
  | _ => none

end DeclaredDebt.Toml
