import DeclaredDebt.Json
import DeclaredDebt.Severity

/-!
# Reading records out of JSON values

A record is written as an object, or as an array of its members in order. Members an object has
beyond the record's own are ignored, but none of the record's own may stand twice; an array may end
early, but may not be longer than the record. What a missing member means is up to the record.
-/

namespace DeclaredDebt.Json

/-- The text of a string. -/
def asText? : Json → Option String
  | .string text => some text
  | _ => none

/-- A natural number below a limit. -/
def asNat? (limit : Nat) : Json → Option Nat
  | .nat n => if n < limit then some n else none
  | _ => none

/-- The elements of an array, each read in the same way. -/
def asList? (f : Json → Option α) : Json → Option (List α)
  | .array elements => elements.mapM f
  | _ => none

/-- The only member of an object with a name; two of them make the object unfit. -/
def onlyMember (members : List (String × Json)) (name : String) : Option (Option Json) :=
  match members.filter (·.1 == name) with
  | [] => some none
  | [(_, v)] => some (some v)
  | _ => none

/-- The members of a record with the given names, each with its value if it is there. -/
def record? (names : List String) : Json → Option (List (Option Json))
  | .object members => names.mapM (onlyMember members)
  | .array elements =>
    if elements.length ≤ names.length then
      some (elements.map some ++ List.replicate (names.length - elements.length) none)
    else none
  | _ => none

/-- A member that has to be there. -/
def required (member? : Option Json) (f : Json → Option α) : Option α := member?.bind f

/-- A member that may be missing. -/
def optional (member? : Option Json) (default : α) (f : Json → Option α) : Option α :=
  match member? with
  | none => some default
  | some v => f v

/-- A value that may be absent: null stands for none. -/
def asOption? (f : Json → Option α) : Json → Option (Option α)
  | .null => some none
  | v => (f v).map some

/-- A severity is written as its word, or as an object whose one member is that word with null. -/
def asSeverity? : Json → Option Severity
  | .string text => Severity.ofName? text
  | .object [(name, .null)] => Severity.ofName? name
  | _ => none

end DeclaredDebt.Json
