import DeclaredDebt.CSharp.Cursor
import DeclaredDebt.CSharp.Grammar
import DeclaredDebt.Usage

/-!
# Attributes of a C# source

Every attribute of a source, wherever it stands, as a usage: the shape of its name, the name as
written, its arguments and its place. A source that does not follow the grammar has syntax errors,
and the usages that a parser recovers from it.

## Main definitions

* `attributeNodes`: the attributes below some trees, in the order of the source, in which a walk
  over the trees finds them.
* `NameSyntax`: a name as the language builds it up; `NameSyntax.shape` is its shape.
* `argumentOf`: the name and the first number of an argument.
* `parseSource`: the usages of a source.
-/

namespace DeclaredDebt.CSharp

/-! ## Finding attributes -/

mutual
/-- The attributes of a tree, each before those inside it. -/
def Tree.attributeNodes : Tree → List (List Tree)
  | .leaf _ => []
  | .node kind children =>
    match kind with
    | .attribute => children :: forestAttributeNodes children
    | _ => forestAttributeNodes children

/-- The attributes of some trees, in order. -/
def forestAttributeNodes : List Tree → List (List Tree)
  | [] => []
  | t :: rest => t.attributeNodes ++ forestAttributeNodes rest
end

/-! ## Names -/

/-- A part of a name, with or without type arguments. -/
structure NameSegment where
  identifier : List Char
  generic : Bool
  deriving DecidableEq

/-- A name as the language builds it up. -/
inductive NameSyntax where
  | segment (s : NameSegment)
  /-- An alias with a part of a name behind two colons. -/
  | aliased (root : List Char) (s : NameSegment)
  /-- A name with one more part behind a point. -/
  | qualified (qualifier : NameSyntax) (s : NameSegment)
  deriving DecidableEq

namespace NameSyntax

/-- The identifiers of a name from left to right, an alias included. -/
def identifiers : NameSyntax → List (List Char)
  | .segment s => [s.identifier]
  | .aliased root s => [root, s.identifier]
  | .qualified qualifier s => qualifier.identifiers ++ [s.identifier]

/-- The shape of a name. -/
def shape : NameSyntax → AttributeName
  | .segment s =>
    if s.generic then .generic (String.ofList s.identifier)
    else .simple (String.ofList s.identifier)
  | .aliased root s => .aliasQualified (String.ofList root) (String.ofList s.identifier)
  | .qualified qualifier s =>
    .qualified ((qualifier.identifiers ++ [s.identifier]).map String.ofList)

end NameSyntax

/-- The parts of a name with the symbol before each of them. -/
def nameParts : List Tree → List (List Char × NameSegment)
  | .leaf separator :: .leaf t :: .node .typeArguments _ :: rest =>
    (separator.text, ⟨t.text, true⟩) :: nameParts rest
  | .leaf separator :: .leaf t :: rest => (separator.text, ⟨t.text, false⟩) :: nameParts rest
  | _ => []

/-- The name that further parts build up. -/
def extendName (n : NameSyntax) (part : List Char × NameSegment) : NameSyntax :=
  match n, part with
  | .segment s, (separator, s') =>
    if separator = "::".toList then .aliased s.identifier s' else .qualified n s'
  | n, (_, s) => .qualified n s

/-- The name that the trees of a name stand for. -/
def nameOf? : List Tree → Option NameSyntax
  | .leaf t :: .node .typeArguments _ :: rest =>
    some ((nameParts rest).foldl extendName (.segment ⟨t.text, true⟩))
  | .leaf t :: rest => some ((nameParts rest).foldl extendName (.segment ⟨t.text, false⟩))
  | _ => none

/-! ## Arguments -/

/-- Whether a token is a number. -/
def Token.isNumber (t : Token) : Bool := t.kind == .integer || t.kind == .real

/-- The numbers in the directives of a gap. -/
def noteNumbers (notes : List Note) : List (List Char) :=
  notes.flatMap fun
    | .comment => []
    | .directive numbers => numbers

/-- The number of a token. -/
def tokenNumber (t : Token) : List (List Char) := if t.isNumber then [t.text] else []

/-- The numbers of an argument, in the order of the source: those of its tokens, and those of
directives between them. -/
def argumentNumbers : List Token → List (List Char)
  | [] => []
  | first :: rest => tokenNumber first ++ rest.flatMap fun t => noteNumbers t.notes ++ tokenNumber t

/-- The name of an argument that starts with a word and a colon, or with an identifier and an equals
sign. -/
def argumentName? : List Token → Option (List Char)
  | first :: second :: _ =>
    if first.kind = .word ∧ (second.isSymbol ":" ∨ first.isIdentifier ∧ second.isSymbol "=") then
      some first.text
    else none
  | _ => none

/-- An argument from its tokens. -/
def argumentOf (leaves : List Token) : Argument where
  name? := (argumentName? leaves).map String.ofList
  literal? := (argumentNumbers leaves).head?.map String.ofList

/-- The trees below the first node of a kind. -/
def childrenOf? (kind : NodeKind) : List Tree → Option (List Tree)
  | [] => none
  | .leaf _ :: rest => childrenOf? kind rest
  | .node k children :: rest => if k = kind then some children else childrenOf? kind rest

/-- The arguments in an argument list. -/
def argumentsOf (trees : List Tree) : List Argument :=
  trees.filterMap fun
    | .node .argument children => some (argumentOf (forestLeaves children))
    | _ => none

/-! ## Places -/

/-- Line and column of a byte of a source, for a text that starts at the given line and column and
with so many bytes still before it. -/
def positionFrom (line column : Nat) : List Char → Nat → Nat × Nat
  | _, 0 => (line, column)
  | [], _ => (line, column)
  | c :: rest, bytes =>
    if c = '\n' then positionFrom (line + 1) 1 rest (bytes - 1)
    else positionFrom line (column + c.utf8Size) rest (bytes - c.utf8Size)

/-- Line and column of a byte of a source, both counted from one. Lines end with a line feed only,
and columns count bytes. -/
def position (source : List Char) (byte : Nat) : Nat × Nat := positionFrom 1 1 source byte

/-- The characters of a source from one byte up to another. -/
def slice : List Char → Nat → Nat → List Char
  | [], _, _ => []
  | c :: rest, start, stop =>
    if start = 0 then
      if stop = 0 then [] else c :: slice rest 0 (stop - c.utf8Size)
    else slice rest (start - c.utf8Size) (stop - c.utf8Size)

/-- The bytes that some tokens cover. -/
def spanOf (leaves : List Token) : Nat × Nat :=
  match leaves, leaves.getLast? with
  | first :: _, some last => (first.start, last.stop)
  | _, _ => (0, 0)

/-! ## Usages -/

/-- The usage of an attribute in a source, from the trees of the attribute. -/
def usageOf (file : Path) (source : List Char) (trees : List Tree) : Usage :=
  let name := (childrenOf? .name trees).getD []
  let nameSpan := spanOf (forestLeaves name)
  let span := spanOf (forestLeaves trees)
  let place := position source span.1
  { name? := (nameOf? name).map NameSyntax.shape
    displayName := String.ofList (slice source nameSpan.1 nameSpan.2)
    arguments := argumentsOf ((childrenOf? .argumentList trees).getD [])
    location := ⟨file, place.1, place.2, span.1, span.2⟩ }

/-- The trees of a source, if it follows the grammar. -/
def treesOf? (source : List Char) : Option (List Tree) := do
  parse? grammar .compilationUnit (tokens (← lexemes? source))

/-- What is found in a source. -/
structure ParsedSource where
  usages : List Usage := []
  hasSyntaxErrors : Bool := false
  deriving DecidableEq

/-- The usages of a source. -/
def parseSource (file : Path) (source : List Char) (recovery : Recovery := .empty) :
    ParsedSource :=
  match treesOf? source with
  | none => { usages := recovery.usages file source, hasSyntaxErrors := true }
  | some trees =>
    let attributes := (Tree.node .compilationUnit trees).attributes
    { usages := attributes.map fun t => usageOf file source t.children }

end DeclaredDebt.CSharp
