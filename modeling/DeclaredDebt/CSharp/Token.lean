import DeclaredDebt.CSharp.Lexeme

/-!
# Tokens of C#

The tokens of a source are its lexemes without the gaps between them. A token knows which bytes of
the source it covers, and which comments and directives stand in the gap before it.
-/

namespace DeclaredDebt.CSharp

/-- What stands in a gap besides white space. -/
inductive Note where
  | comment
  /-- A directive with the numbers in it. -/
  | directive (numbers : List (List Char))
  deriving DecidableEq

/-- A lexeme at its place, with what stands in the gap before it. -/
structure Token where
  kind : LexemeKind
  text : List Char
  start : Nat
  notes : List Note
  deriving DecidableEq

/-- The number of bytes of a text. -/
def byteLength (text : List Char) : Nat := (text.map Char.utf8Size).foldr (· + ·) 0

/-- The byte behind a token. -/
def Token.stop (t : Token) : Nat := t.start + byteLength t.text

/-- The directives whose numbers count as literals. -/
def numberedDirectives : List String := ["pragma", "line"]

/-- The numbers in a text that is not inside a word or a string; so many characters are skipped
first. -/
def numbersIn : Nat → List Char → List (List Char)
  | _, [] => []
  | skip + 1, _ :: rest => numbersIn skip rest
  | 0, c :: rest =>
    match stringLength? (c :: rest), wordLength? (c :: rest), number? (c :: rest) with
    | some n, _, _ => numbersIn (n - 1) rest
    | none, some n, _ => numbersIn (n - 1) rest
    | none, none, some (_, n) => (c :: rest).take n :: numbersIn (n - 1) rest
    | none, none, none => numbersIn 0 rest

/-- A directive as a note. -/
def directiveNote (text : List Char) : Note :=
  let (blanks, word) := directiveWord (text.drop 1)
  if numberedDirectives.contains (String.ofList word) then
    .directive (numbersIn 0 (text.drop (1 + blanks + word.length)))
  else .directive []

/-- The tokens of some lexemes, the first of which starts at the given byte and has the given notes
before it. -/
def tokensFrom (offset : Nat) (notes : List Note) : List Lexeme → List Token
  | [] => []
  | ⟨kind, text⟩ :: rest =>
    let after := offset + byteLength text
    match kind with
    | .blank => tokensFrom after notes rest
    | .comment => tokensFrom after (notes ++ [.comment]) rest
    | .directive => tokensFrom after (notes ++ [directiveNote text]) rest
    | kind => ⟨kind, text, offset, notes⟩ :: tokensFrom after [] rest

/-- The tokens of some lexemes. -/
def tokens (lexemes : List Lexeme) : List Token := tokensFrom 0 [] lexemes

end DeclaredDebt.CSharp
