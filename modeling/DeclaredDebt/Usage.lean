import DeclaredDebt.Location

/-!
# Attribute usages

What the analysis knows of one attribute in a source: the shape of its name, the name as written,
its arguments and its place. An argument keeps its own name, if it has one, and the text of the
first number in it.

## Main definitions

* `AttributeName`, `Argument`, `Usage`: what is known of an attribute.
* `Recovery`: what is known of the attributes of sources with syntax errors.
-/

namespace DeclaredDebt

/-- The shape of an attribute's name. Type arguments are not part of it. -/
inductive AttributeName where
  | simple (name : String)
  | generic (name : String)
  | qualified (segments : List String)
  | aliasQualified (root name : String)
  deriving DecidableEq

namespace AttributeName

/-- The rightmost part of a name, however it is qualified. -/
def lastSegment? : AttributeName → Option String
  | .simple name => some name
  | .generic name => some name
  | .qualified segments => segments.getLast?
  | .aliasQualified _ name => some name

/-- The name an attribute goes by. An empty part names nothing. -/
def simpleName? (n : AttributeName) : Option String :=
  n.lastSegment?.filter (· ≠ "")

end AttributeName

/-- An argument of an attribute. -/
structure Argument where
  name? : Option String
  literal? : Option String
  deriving DecidableEq

/-- One attribute as it stands in a source. -/
structure Usage where
  name? : Option AttributeName
  displayName : String
  arguments : List Argument
  location : Location
  deriving DecidableEq

/-- The usages that are found in sources with syntax errors. How a parser gets over an error is left
open; what it finds stands in the file, and in the order of the source. -/
structure Recovery where
  usages : Path → List Char → List Usage
  inFile : ∀ file source, ∀ u ∈ usages file source, u.location.file = file
  inOrder : ∀ file source, (usages file source).Pairwise fun u v => u.location.IsBefore v.location

/-- Nothing is found in sources with syntax errors. -/
def Recovery.empty : Recovery := ⟨fun _ _ => [], by simp, by simp⟩

end DeclaredDebt
