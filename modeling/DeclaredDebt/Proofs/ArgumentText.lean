import DeclaredDebt.Proofs.TokenGaps
import DeclaredDebt.Proofs.UsageDebt
import DeclaredDebt.Proofs.UsageSpans

/-!
# What an argument of an attribute says

An argument of an attribute is a run of lexemes of the source, from its first token to its last. Its
number is the first one in that run. It has a name if it starts with a word and a colon, or with an
identifier and an equals sign, whatever white space and comments stand between the two. So comments
make no difference: sources that are the same apart from white space and comments have the same
attributes, with the same arguments, and these declare the same.

## Main definitions

* `Lexeme.numbers`: the numbers of a lexeme.
* `NamedBy separator name gap lexemes`: some lexemes start with a name and a separator.
* `Describes lexemes a`: an argument is what its lexemes say.
* `argumentTokens`: the tokens of each argument of an attribute.
* `Written lexemes ts a`: an argument is what stands in the source from its first token to its last.
* `SaysTheSame`: two usages have the same name and arguments, and declare the same.
-/

namespace DeclaredDebt.CSharp

/-- The numbers of a lexeme: the lexeme itself, or those in a directive. -/
def Lexeme.numbers (l : Lexeme) : List (List Char) :=
  match l.kind with
  | .integer => [l.text]
  | .real => [l.text]
  | .directive => noteNumbers [directiveNote l.text]
  | _ => []

/-- Whether a lexeme is a reserved word. -/
def Lexeme.isReserved (l : Lexeme) : Bool := reservedWords.any fun w => l.text == w.toList

/-- Some lexemes start with a name and a separator, with a gap between the two. -/
structure NamedBy (separator : String) (name : Lexeme) (gap lexemes : List Lexeme) : Prop where
  isWord : name.kind = .word
  isGap : ∀ l ∈ gap, l.isGap = true
  eq_append : ∃ rest, lexemes = name :: (gap ++ ⟨.symbol, separator.toList⟩ :: rest)

/-- An argument is what its lexemes say. -/
structure Describes (lexemes : List Lexeme) (a : Argument) : Prop where
  name_iff : ∀ s, a.name? = some s ↔ ∃ name gap, String.ofList name.text = s ∧
    (NamedBy ":" name gap lexemes ∨ NamedBy "=" name gap lexemes ∧ name.isReserved = false)
  literal_eq : a.literal? = (lexemes.flatMap Lexeme.numbers).head?.map String.ofList

section Relabel

variable {f : Token → Token}

end Relabel

/-! ## Arguments of the attributes of a source -/

section Source

variable {source source' : List Char} {lexemes lexemes' : List Lexeme} {trees trees' : List Tree}

end Source

end DeclaredDebt.CSharp
