/-!
# TOML documents

The values of a TOML document, and how its statements build up one table. A document is a list of
headers and assignments. Headers open tables, and dotted names open tables on their way; the rules
below say when a table may be opened again and when a name is already taken.

## Main definitions

* `Toml`: a value. Only what settings use of it is kept: floats and dates have no content here.
* `Toml.Statement`: a header or an assignment.
* `Toml.assemble?`: the table that the statements of a document build up.
-/

namespace DeclaredDebt

/-- A TOML value. -/
inductive Toml where
  | string (text : String)
  | integer (value : Int)
  | float
  | boolean (value : Bool)
  | date
  | array (elements : List Toml)
  | table (members : List (String × Toml))

namespace Toml

/-- A line of a document. -/
inductive Statement where
  /-- The header of a table. -/
  | table (path : List String)
  /-- The header of one more table in an array. -/
  | arrayTable (path : List String)
  /-- An assignment to a dotted name. -/
  | assign (path : List String) (value : Toml)

/-- How a table came to be. -/
inductive Origin where
  /-- A header named it. -/
  | header
  /-- The header of a table below it did. -/
  | above
  /-- A dotted name did. -/
  | dotted
  deriving DecidableEq

/-- A part of a document that is still growing. -/
inductive Node where
  | value (v : Toml)
  | table (origin : Origin) (members : List (String × Node))
  | arrayTable (items : List (List (String × Node)))

/-- The members of a table that is still growing. -/
abbrev Members := List (String × Node)

/-- Changes the member of a name, or adds one behind the others. -/
def change (name : String) (f : Option Node → Option Node) : Members → Option Members
  | [] => (f none).map fun n => [(name, n)]
  | (key, n) :: rest =>
    if key = name then (f (some n)).map fun n => (key, n) :: rest
    else (change name f rest).map ((key, n) :: ·)

/-- Changes the last of some tables. -/
def changeLast (f : Members → Option Members) (items : List Members) : Option Node :=
  match items.reverse with
  | [] => none
  | last :: before => (f last).map fun last => .arrayTable (last :: before).reverse

/-- Changes the table that the path of a header leads to. Tables on the way come into being, and in
an array the last table is meant. -/
def atHeader (f : Members → Option Members) : List String → Members → Option Members
  | [], members => f members
  | name :: path, members =>
    change name (fun
      | none => (atHeader f path []).map (.table .above)
      | some (.table origin inner) => (atHeader f path inner).map (.table origin)
      | some (.arrayTable items) => changeLast (atHeader f path) items
      | some (.value _) => none) members

/-- Assigns a value to a dotted name. A name can be assigned once, and a table that has a header
cannot grow by dotted names from outside. -/
def assignDotted (value : Toml) : List String → Members → Option Members
  | [], _ => none
  | [name], members =>
    change name (fun
      | none => some (.value value)
      | some _ => none) members
  | name :: path, members =>
    change name (fun
      | none => (assignDotted value path []).map (.table .dotted)
      | some (.table origin inner) =>
        if origin = .header ∨ (path.length = 1 ∧ origin ≠ .dotted) then none
        else (assignDotted value path inner).map (.table origin)
      | some (.arrayTable items) =>
        if path.length = 1 then none else changeLast (assignDotted value path) items
      | some (.value _) => none) members

/-- Opens the table of a header: a new one, or one that came into being above another. -/
def openTable (path : List String) (members : Members) : Option Members :=
  match path.reverse with
  | [] => none
  | name :: before =>
    atHeader (change name fun
      | none => some (.table .header [])
      | some (.table .above inner) => some (.table .header inner)
      | some _ => none) before.reverse members

/-- Opens one more table of an array. -/
def openArrayTable (path : List String) (members : Members) : Option Members :=
  match path.reverse with
  | [] => none
  | name :: before =>
    atHeader (change name fun
      | none => some (.arrayTable [[]])
      | some (.arrayTable items) => some (.arrayTable (items ++ [[]]))
      | some _ => none) before.reverse members

mutual
/-- The value of a part of a document. -/
def Node.finish : Node → Toml
  | .value v => v
  | .table _ members => .table (finishMembers members)
  | .arrayTable items => .array (finishItems items)

/-- The values of the members of a table. -/
def finishMembers : List (String × Node) → List (String × Toml)
  | [] => []
  | (name, n) :: rest => (name, n.finish) :: finishMembers rest

/-- The values of some tables. -/
def finishItems : List (List (String × Node)) → List Toml
  | [] => []
  | members :: rest => .table (finishMembers members) :: finishItems rest
end

/-- A table between braces, from its assignments. -/
def inlineTable? (assignments : List (List String × Toml)) : Option Toml :=
  (assignments.foldlM (fun members a => assignDotted a.2 a.1 members) []).map fun members =>
    .table (finishMembers members)

/-- A document so far: its members, and the path of the table that assignments go to. -/
structure Document where
  members : Members := []
  current : List String := []

/-- Adds a statement to a document. -/
def Document.add (d : Document) : Statement → Option Document
  | .table path => (openTable path d.members).map fun members => ⟨members, path⟩
  | .arrayTable path => (openArrayTable path d.members).map fun members => ⟨members, path⟩
  | .assign path value =>
    (atHeader (assignDotted value path) d.current d.members).map fun members =>
      { d with members }

/-- The table that the statements of a document build up. -/
def assemble? (statements : List Statement) : Option (List (String × Toml)) :=
  (statements.foldlM Document.add {}).map fun d => finishMembers d.members

end Toml

end DeclaredDebt
