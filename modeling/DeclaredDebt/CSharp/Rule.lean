import DeclaredDebt.CSharp.Token

/-!
# Grammar rules

A grammar is a rule for each of its symbols. Rules are data: `Rule.run` reads tokens by a rule, and
`parse?` reads a whole list of tokens by a symbol. A choice tries its alternatives in order and
keeps to the first that fits; a repetition takes as much as it can.

The result is a list of trees. Only the parts of a source that matter later become nodes; all other
tokens stay leaves of the list, in the order of the source.

## Main definitions

* `Tree`: a token or a node over trees; `Tree.leaves` are its tokens.
* `Rule`: the rules, over the symbols of a grammar.
* `Rule.run`, `runSymbol`, `parse?`: reading tokens.
-/

namespace DeclaredDebt.CSharp

/-- The parts of a source that become nodes. -/
inductive NodeKind where
  /-- A whole source. -/
  | compilationUnit
  | attribute
  | name
  | typeArguments
  | argumentList
  | argument
  deriving DecidableEq

/-- A token, or a node over trees. -/
inductive Tree where
  | leaf (token : Token)
  | node (kind : NodeKind) (children : List Tree)

mutual
/-- The tokens of a tree, in order. -/
def Tree.leaves : Tree → List Token
  | .leaf t => [t]
  | .node _ children => forestLeaves children

/-- The tokens of a list of trees, in order. -/
def forestLeaves : List Tree → List Token
  | [] => []
  | t :: rest => t.leaves ++ forestLeaves rest
end

/-- Which tokens fit. -/
inductive TokenClass where
  /-- A certain word. -/
  | word (text : String)
  /-- A certain symbol. -/
  | symbol (text : String)
  /-- A word that is not reserved and not one of those listed. -/
  | identifier (except : List String)
  /-- Any word, reserved ones included. -/
  | anyWord
  | kind (k : LexemeKind)
  /-- A directive that chooses between parts of the source. -/
  | branch (text : String)
  | any

/-- The words that cannot be identifiers. -/
def reservedWords : List String :=
  ["abstract", "as", "base", "bool", "break", "byte", "case", "catch", "char", "checked", "class",
   "const", "continue", "decimal", "default", "delegate", "do", "double", "else", "enum", "event",
   "explicit", "extern", "false", "finally", "fixed", "float", "for", "foreach", "goto", "if",
   "implicit", "in", "int", "interface", "internal", "is", "lock", "long", "namespace", "new",
   "null", "object", "operator", "out", "override", "params", "private", "protected", "public",
   "readonly", "ref", "return", "sbyte", "sealed", "short", "sizeof", "stackalloc", "static",
   "string", "struct", "switch", "this", "throw", "true", "try", "typeof", "uint", "ulong",
   "unchecked", "unsafe", "ushort", "using", "virtual", "void", "volatile", "while"]

/-- Whether a token is the given word or symbol. -/
def Token.isWord (t : Token) (text : String) : Bool := t.kind == .word && t.text == text.toList

def Token.isSymbol (t : Token) (text : String) : Bool := t.kind == .symbol && t.text == text.toList

/-- Whether a token is one of some words. -/
def Token.isOneOf (t : Token) (words : List String) : Bool := words.any fun w => t.text == w.toList

/-- Whether a token is an identifier. -/
def Token.isIdentifier (t : Token) : Bool := t.kind == .word && !t.isOneOf reservedWords

/-- Whether a token is in a class. -/
def TokenClass.fits : TokenClass → Token → Bool
  | .word text, t => t.isWord text
  | .symbol text, t => t.isSymbol text
  | .identifier except, t => t.isIdentifier && !t.isOneOf except
  | .anyWord, t => t.kind == .word
  | .kind k, t => t.kind == k
  | .branch w, t => t.kind == .branch && t.text.filter Char.isAlpha == w.toList
  | .any, _ => true

/-- The rules over the symbols of a grammar. -/
inductive Rule (σ : Type) where
  /-- Takes nothing. -/
  | done
  /-- Takes one token. -/
  | token (c : TokenClass)
  /-- Goes by the rule of a symbol. -/
  | call (s : σ)
  | seq (a b : Rule σ)
  /-- Tries the second only if the first does not fit. -/
  | alt (a b : Rule σ)
  /-- Takes as many as there are. -/
  | many (a : Rule σ)
  /-- Takes nothing, but fits only if the rule does. -/
  | ahead (a : Rule σ)
  /-- Takes nothing, but fits only if the rule does not. -/
  | absent (a : Rule σ)
  /-- Takes nothing, but fits only if the tokens to come pass a test. -/
  | check (p : List Token → Bool)
  /-- Makes a node of what the rule takes. -/
  | node (kind : NodeKind) (a : Rule σ)

/-- What reads tokens: the trees for those taken, and the tokens left. -/
abbrev Reader := List Token → Option (List Tree × List Token)

/-- Reads as often as it can, but no more than so many times; a reading that takes nothing ends
the repetition. -/
def readMany (r : Reader) : Nat → Reader
  | 0, ts => some ([], ts)
  | n + 1, ts =>
    match r ts with
    | none => some ([], ts)
    | some (trees, rest) =>
      if rest.length < ts.length then
        match readMany r n rest with
        | some (more, rest) => some (trees ++ more, rest)
        | none => none
      else some ([], ts)

/-- Reads by a rule, given how the symbols read. -/
def Rule.run {σ : Type} (symbol : σ → Reader) : Rule σ → Reader
  | .done, ts => some ([], ts)
  | .token c, ts =>
    match ts with
    | t :: rest => if c.fits t then some ([.leaf t], rest) else none
    | [] => none
  | .call s, ts => symbol s ts
  | .seq a b, ts =>
    match a.run symbol ts with
    | none => none
    | some (trees, rest) =>
      match b.run symbol rest with
      | none => none
      | some (more, rest) => some (trees ++ more, rest)
  | .alt a b, ts =>
    match a.run symbol ts with
    | some result => some result
    | none => b.run symbol ts
  | .many a, ts => readMany (a.run symbol) ts.length ts
  | .ahead a, ts =>
    match a.run symbol ts with
    | some _ => some ([], ts)
    | none => none
  | .absent a, ts =>
    match a.run symbol ts with
    | some _ => none
    | none => some ([], ts)
  | .check p, ts => if p ts then some ([], ts) else none
  | .node kind a, ts =>
    match a.run symbol ts with
    | none => none
    | some (trees, rest) => some ([.node kind trees], rest)

/-- Reads by a symbol of a grammar, with symbols nested at most so deep. -/
def runSymbol {σ : Type} (grammar : σ → Rule σ) : Nat → σ → Reader
  | 0, _, _ => none
  | depth + 1, s, ts => (grammar s).run (runSymbol grammar depth) ts

/-- More symbols than this are never nested without a token taken between them. -/
def nestingPerToken : Nat := 40

/-- Reads all tokens by a symbol. -/
def parse? {σ : Type} (grammar : σ → Rule σ) (start : σ) (ts : List Token) : Option (List Tree) :=
  match runSymbol grammar ((ts.length + 1) * nestingPerToken) start ts with
  | some (trees, []) => some trees
  | _ => none

namespace Rule

variable {σ : Type}

/-- A word or a symbol, told apart by its first character. -/
def t (text : String) : Rule σ :=
  let first := text.toList.headD ' '
  if first.isAlpha || first == '_' then .token (.word text) else .token (.symbol text)

/-- One rule after the other. -/
def all : List (Rule σ) → Rule σ
  | [] => .done
  | [a] => a
  | a :: rest => .seq a (all rest)

/-- The first rule that fits; of no rules, none does. -/
def oneOf : List (Rule σ) → Rule σ
  | [] => .check fun _ => false
  | [a] => a
  | a :: rest => .alt a (oneOf rest)

/-- One of some words or symbols. -/
def anyOf (texts : List String) : Rule σ := oneOf (texts.map t)

/-- A rule that may be left out. -/
def opt (a : Rule σ) : Rule σ := .alt a .done

/-- One or more, with a separator between them. -/
def separated (separator : String) (a : Rule σ) : Rule σ :=
  .seq a (.many (.seq (t separator) a))

/-- One or more, with commas between them. -/
def commas (a : Rule σ) : Rule σ := separated "," a

/-- A rule between brackets. -/
def between (opening : String) (a : Rule σ) (closing : String) : Rule σ :=
  all [t opening, a, t closing]

def identifier : Rule σ := .token (.identifier [])

end Rule

end DeclaredDebt.CSharp
