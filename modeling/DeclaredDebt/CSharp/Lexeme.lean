import DeclaredDebt.Text.Identifier

/-!
# Lexemes of C#

A source is cut into lexemes: words, literals, symbols, and the blanks, comments and directives
between them. Nothing is dropped, so the lexemes of a source put together are the source again.

Each recogniser answers how many characters of the text it takes; `next?` chooses among them, and
`lexemes?` cuts off one lexeme after the other. Interpolated strings are cut into their text and
the code in their holes, and the condition of an `#if` ends with its line, so the cutting goes by a
stack of `Mode`s.

## Main definitions

* `LexemeKind`, `Lexeme`: what a piece of the source is.
* `Mode`: where in an interpolated string or a condition the text stands.
* `next?`: the kind and length of the next lexeme, and the modes behind it.
* `lexemes?`: all lexemes of a source.
-/

namespace DeclaredDebt.CSharp

/-- What a piece of a source is. -/
inductive LexemeKind where
  /-- White space. -/
  | blank
  | comment
  /-- A directive that does not choose between parts of the source. -/
  | directive
  /-- An identifier or a keyword. -/
  | word
  | integer
  | real
  | character
  /-- A whole string literal. -/
  | string
  | symbol
  /-- The opening quotes of an interpolated string. -/
  | templateStart
  /-- Text of an interpolated string. -/
  | templateText
  /-- The closing quotes of an interpolated string. -/
  | templateEnd
  /-- The opening braces of a hole in an interpolated string. -/
  | holeStart
  /-- The closing braces of a hole. -/
  | holeEnd
  /-- A colon in a hole with the format behind it. -/
  | formatText
  /-- An `#if`, `#elif`, `#else` or `#endif`, up to its word. -/
  | branch
  /-- The end of the line of an `#if` or `#elif`. -/
  | lineEnd
  deriving DecidableEq

/-- A piece of a source. -/
structure Lexeme where
  kind : LexemeKind
  text : List Char
  deriving DecidableEq

/-- How an interpolated string is quoted. -/
inductive Quoting where
  | regular
  | verbatim
  /-- So many dollar signs, which are the braces of a hole, and so many quotes. -/
  | raw (dollars quotes : Nat)
  deriving DecidableEq

/-- Where the text stands, apart from plain code. -/
inductive Mode where
  /-- In the text of an interpolated string. -/
  | template (quoting : Quoting)
  /-- In a hole. For each open bracket, and for the hole itself, there is the number of question
  marks that wait for a colon; the innermost bracket comes first. -/
  | hole (quoting : Quoting) (waiting : List Nat)
  /-- In the condition of an `#if` or `#elif`. -/
  | condition
  deriving DecidableEq

/-! ## Characters and runs -/

/-- White space between lexemes. -/
def isSpace (c : Char) : Bool :=
  (9 ≤ c.toNat && c.toNat ≤ 13) || c == ' ' || c.toNat == 0xA0 || c.toNat == 0xFEFF ||
    c.toNat == 0x3000

def isHexDigit (c : Char) : Bool :=
  c.isDigit || ('a' ≤ c && c ≤ 'f') || ('A' ≤ c && c ≤ 'F')

/-- How many characters at the start of a text are in a class. -/
def runLength (p : Char → Bool) : List Char → Nat
  | [] => 0
  | c :: rest => if p c then runLength p rest + 1 else 0

/-- Whether a text starts with a word. -/
def startsWith (word : String) (text : List Char) : Bool := word.toList.isPrefixOf text

/-! ## Words -/

/-- How much of a text goes on with an identifier, escape sequences included. -/
def innerLength : List Char → Nat
  | '\\' :: 'u' :: a :: b :: c :: d :: rest =>
    if [a, b, c, d].all isHexDigit then innerLength rest + 6 else 0
  | '\\' :: 'U' :: a :: b :: c :: d :: e :: f :: g :: h :: rest =>
    if [a, b, c, d, e, f, g, h].all isHexDigit then innerLength rest + 10 else 0
  | c :: rest => if Text.isIdentifierPart c then innerLength rest + 1 else 0
  | [] => 0

/-- The length of an identifier or keyword without an at sign. -/
def plainWordLength? (text : List Char) : Option Nat :=
  match text with
  | [] => none
  | c :: _ =>
    if Text.isIdentifierStart c || c == '_' || c == '\\' then
      match innerLength text with
      | 0 => none
      | n => some n
    else none

/-- The length of an identifier or keyword. -/
def wordLength? : List Char → Option Nat
  | '@' :: rest => (plainWordLength? rest).map (· + 1)
  | text => plainWordLength? text

/-! ## Numbers -/

/-- The length of a run of digits with low lines inside; a low line at the end is not part of it. -/
def digitsLength (p : Char → Bool) (text : List Char) : Nat :=
  let run := text.take (runLength (fun c => p c || c == '_') text)
  run.length - runLength (· == '_') run.reverse

/-- The length of a run of decimal digits; it has to start with one. -/
def decimalLength (text : List Char) : Nat :=
  match text with
  | c :: _ => if c.isDigit then digitsLength Char.isDigit text else 0
  | [] => 0

/-- The length of the suffix of an integer. -/
def integerSuffixLength : List Char → Nat
  | a :: b :: _ =>
    if "uU".toList.contains a then (if "lL".toList.contains b then 2 else 1)
    else if "lL".toList.contains a then (if "uU".toList.contains b then 2 else 1)
    else 0
  | [a] => if "uUlL".toList.contains a then 1 else 0
  | [] => 0

/-- The length of an exponent. -/
def exponentLength : List Char → Nat
  | e :: rest =>
    if e == 'e' || e == 'E' then
      let sign := match rest with
        | '+' :: _ => 1
        | '-' :: _ => 1
        | _ => 0
      let digits := rest.drop sign
      match digits with
      | c :: _ =>
        if c.isDigit then 1 + sign + runLength (fun c => c.isDigit || c == '_') digits else 0
      | [] => 0
    else 0
  | [] => 0

/-- The length of the suffix of a real. -/
def realSuffixLength : List Char → Nat
  | c :: _ => if "fFdDmM".toList.contains c then 1 else 0
  | [] => 0

/-- The length of a fraction: a point and digits. -/
def fractionLength : List Char → Nat
  | '.' :: rest =>
    match decimalLength rest with
    | 0 => 0
    | n => n + 1
  | _ => 0

/-- The length of an integer in another radix behind its zero and letter. -/
def radixLength (text : List Char) : Nat :=
  match text with
  | '0' :: x :: rest =>
    let digits :=
      if x == 'x' || x == 'X' then digitsLength isHexDigit rest
      else if x == 'b' || x == 'B' then digitsLength (fun c => c == '0' || c == '1') rest
      else 0
    if digits = 0 then 0 else digits + 2
  | _ => 0

/-- A number at the start of a text: integer or real, and its length. -/
def number? (text : List Char) : Option (LexemeKind × Nat) :=
  let radix := radixLength text
  if 0 < radix then some (.integer, radix + integerSuffixLength (text.drop radix))
  else
    let whole := decimalLength text
    let fraction := fractionLength (text.drop whole)
    let exponent :=
      if whole + fraction = 0 then 0 else exponentLength (text.drop (whole + fraction))
    let body := whole + fraction + exponent
    let suffix := if body = 0 then 0 else realSuffixLength (text.drop body)
    if 0 < fraction + exponent + suffix then some (.real, body + suffix)
    else if 0 < whole then some (.integer, whole + integerSuffixLength (text.drop whole))
    else none

/-! ## Strings -/

/-- The length of the mark that makes a string literal one of bytes. -/
def encodingLength : List Char → Nat
  | u :: '8' :: _ => if u == 'u' || u == 'U' then 2 else 0
  | _ => 0

/-- The length of a regular string behind its opening quote, closing quote included. -/
def regularLength? : List Char → Option Nat
  | [] => none
  | '"' :: _ => some 1
  | '\n' :: _ => none
  | '\\' :: '\n' :: _ => none
  | '\\' :: _ :: rest => (regularLength? rest).map (· + 2)
  | _ :: rest => (regularLength? rest).map (· + 1)

/-- The length of a verbatim string behind its opening quote, closing quote included. -/
def verbatimLength? : List Char → Option Nat
  | [] => none
  | '"' :: '"' :: rest => (verbatimLength? rest).map (· + 2)
  | '"' :: _ => some 1
  | _ :: rest => (verbatimLength? rest).map (· + 1)

/-- The length of a raw string behind its opening quotes, closing quotes included. -/
def rawLength? (quotes : Nat) : List Char → Option Nat
  | [] => none
  | c :: rest =>
    if quotes ≤ runLength (· == '"') (c :: rest) then some quotes
    else (rawLength? quotes rest).map (· + 1)

/-- The length of a whole string literal. -/
def stringLength? (text : List Char) : Option Nat :=
  let body := match text with
    | '@' :: '"' :: rest => (verbatimLength? rest).map (· + 2)
    | '"' :: rest =>
      let quotes := runLength (· == '"') text
      if 3 ≤ quotes then (rawLength? quotes (text.drop quotes)).map (· + quotes)
      else (regularLength? rest).map (· + 1)
    | _ => none
  body.map fun n => n + encodingLength (text.drop n)

/-- The length of a character literal. -/
def characterLength? : List Char → Option Nat
  | '\'' :: '\\' :: rest =>
    match rest with
    | c :: rest => if c = '\n' then none else closing rest 3
    | [] => none
  | '\'' :: c :: '\'' :: _ => if c = '\'' ∨ c = '\n' then none else some 3
  | _ => none
where
  /-- The rest of an escape sequence and the closing quote, behind so many characters. -/
  closing : List Char → Nat → Option Nat
    | '\'' :: _, n => some (n + 1)
    | c :: rest, n => if isHexDigit c then closing rest (n + 1) else none
    | [], _ => none

/-- How an interpolated string that starts here is quoted, and the length of its opening. -/
def templateStart? (text : List Char) : Option (Quoting × Nat) :=
  match text with
  | '@' :: '$' :: '"' :: _ => some (.verbatim, 3)
  | '$' :: '@' :: '"' :: _ => some (.verbatim, 3)
  | '$' :: _ =>
    let dollars := runLength (· == '$') text
    let quotes := runLength (· == '"') (text.drop dollars)
    if 3 ≤ quotes then some (.raw dollars quotes, dollars + quotes)
    else if dollars = 1 ∧ 1 ≤ quotes then some (.regular, 2)
    else none
  | _ => none

/-- How many braces open and close a hole. -/
def Quoting.braces : Quoting → Nat
  | .raw dollars _ => dollars
  | _ => 1

/-- The length of the closing quotes. -/
def Quoting.closing : Quoting → Nat
  | .raw _ quotes => quotes
  | _ => 1

/-- How much text of a regular interpolated string comes before its end or the next hole. -/
def regularTextLength : List Char → Nat
  | '\x7b' :: '\x7b' :: rest => regularTextLength rest + 2
  | '\\' :: c :: rest => if c = '\n' then 0 else regularTextLength rest + 2
  | c :: rest =>
    if c = '"' ∨ c = '\x7b' ∨ c = '\n' ∨ c = '\\' then 0 else regularTextLength rest + 1
  | [] => 0

/-- How much text of a verbatim interpolated string comes before its end or the next hole. -/
def verbatimTextLength : List Char → Nat
  | '\x7b' :: '\x7b' :: rest => verbatimTextLength rest + 2
  | '"' :: '"' :: rest => verbatimTextLength rest + 2
  | c :: rest => if c = '"' ∨ c = '\x7b' then 0 else verbatimTextLength rest + 1
  | [] => 0

/-- How much text of a raw interpolated string comes before its end or the next hole. Of a longer
run of braces the last ones open the hole. -/
def rawTextLength (dollars quotes : Nat) : List Char → Nat
  | [] => 0
  | c :: rest =>
    if quotes ≤ runLength (· == '"') (c :: rest) then 0
    else if runLength (· == '\x7b') (c :: rest) = dollars then 0
    else rawTextLength dollars quotes rest + 1

/-- How much text of an interpolated string comes before its end or the next hole. -/
def templateTextLength : Quoting → List Char → Nat
  | .regular, text => regularTextLength text
  | .verbatim, text => verbatimTextLength text
  | .raw dollars quotes, text => rawTextLength dollars quotes text

/-! ## Comments and directives -/

/-- The length of a block comment behind its opening, closing included. -/
def blockCommentLength? : List Char → Option Nat
  | '*' :: '/' :: _ => some 2
  | _ :: rest => (blockCommentLength? rest).map (· + 1)
  | [] => none

/-- The length of a comment. -/
def commentLength? : List Char → Option Nat
  | '/' :: '/' :: rest => some (2 + runLength (fun c => c ≠ '\n' && c ≠ '\r') rest)
  | '/' :: '*' :: rest => (blockCommentLength? rest).map (· + 2)
  | _ => none

/-- The directives that go to the end of their line and mean nothing to the structure of a
source. -/
def plainDirectives : List String :=
  ["region", "endregion", "line", "pragma", "nullable", "error", "warning", "define", "undef"]

/-- The blanks and the word behind a number sign. -/
def directiveWord (text : List Char) : Nat × List Char :=
  let blanks := runLength (fun c => c == ' ' || c == '\t') text
  (blanks, (text.drop blanks).takeWhile Char.isAlpha)

/-- The rest of a line. -/
def lineLength (text : List Char) : Nat := runLength (· ≠ '\n') text

/-! ## Symbols -/

/-- The symbols of more than one character, the longer ones first. A greater-than sign stands alone
unless an equals sign follows, since it may close a list of type arguments. -/
def longSymbols : List String :=
  ["??=", "<<=", "??", "::", "++", "--", "&&", "||", "->", "==", "!=", "<=", ">=", "+=", "-=", "*=",
   "/=", "%=", "&=", "|=", "^=", "<<", "=>", ".."]

/-- The symbols of one character. -/
def shortSymbols : List Char := "\x7b\x7d[]().,;:?<>=+-*/%&|^!~".toList

/-- The length of a symbol. -/
def symbolLength? (text : List Char) : Option Nat :=
  match longSymbols.find? (startsWith · text) with
  | some s => some s.length
  | none =>
    match text with
    | c :: _ => if shortSymbols.contains c then some 1 else none
    | [] => none

/-! ## Lexemes in their modes -/

/-- How many question marks wait after a symbol, for the brackets around it. -/
def waitingAfter (text : List Char) (length : Nat) (waiting : List Nat) : List Nat :=
  match text.take length, waiting with
  | ['('], w => 0 :: w
  | ['['], w => 0 :: w
  | ['\x7b'], w => 0 :: w
  | [')'], _ :: w => w
  | [']'], _ :: w => w
  | ['\x7d'], _ :: w => w
  | ['?'], n :: w =>
    match text.drop 1 with
    | '.' :: _ => n :: w
    | '[' :: _ => n :: w
    | _ => (n + 1) :: w
  | [':'], n :: w => (n - 1) :: w
  | _, w => w

/-- The modes behind a symbol. -/
def modesAfter (text : List Char) (length : Nat) : List Mode → List Mode
  | .hole quoting waiting :: modes => .hole quoting (waitingAfter text length waiting) :: modes
  | modes => modes

/-- A lexeme that starts with a number sign. -/
def numberSign? (text : List Char) (modes : List Mode) : Option (LexemeKind × Nat × List Mode) :=
  match text with
  | '!' :: _ => some (.directive, 1 + lineLength text, modes)
  | _ =>
    let (blanks, word) := directiveWord text
    let word := String.ofList word
    let length := 1 + blanks + word.length
    if word = "if" ∨ word = "elif" then some (.branch, length, .condition :: modes)
    else if word = "else" ∨ word = "endif" then some (.branch, length, modes)
    else if plainDirectives.contains word then some (.directive, 1 + lineLength text, modes)
    else none

/-- The next lexeme of plain code: its kind, its length and the modes behind it. -/
def nextCode? (text : List Char) (modes : List Mode) : Option (LexemeKind × Nat × List Mode) :=
  let spaces := runLength isSpace text
  if 0 < spaces then some (.blank, spaces, modes)
  else
    match text with
    | [] => none
    | '#' :: rest => numberSign? rest modes
    | c :: _ =>
      if startsWith "//" text || startsWith "/*" text then
        (commentLength? text).map fun n => (.comment, n, modes)
      else
        match templateStart? text with
        | some (quoting, n) => some (.templateStart, n, .template quoting :: modes)
        | none =>
          if c = '"' || startsWith "@\"" text then
            (stringLength? text).map fun n => (.string, n, modes)
          else if c = '\'' then (characterLength? text).map fun n => (.character, n, modes)
          else
            match wordLength? text with
            | some n => some (.word, n, modes)
            | none =>
              match number? text with
              | some (kind, n) => some (kind, n, modes)
              | none => (symbolLength? text).map fun n => (.symbol, n, modesAfter text n modes)

/-- The next lexeme in the text of an interpolated string. -/
def nextTemplate? (quoting : Quoting) (text : List Char) (modes : List Mode) :
    Option (LexemeKind × Nat × List Mode) :=
  match templateTextLength quoting text with
  | 0 =>
    match text with
    | '"' :: _ => some (.templateEnd, quoting.closing, modes)
    | '\x7b' :: _ =>
      some (.holeStart, quoting.braces, .hole quoting [0] :: .template quoting :: modes)
    | _ => none
  | n => some (.templateText, n, .template quoting :: modes)

/-- The next lexeme, its length and the modes behind it. -/
def next? (modes : List Mode) (text : List Char) : Option (LexemeKind × Nat × List Mode) :=
  match modes with
  | .template quoting :: rest => nextTemplate? quoting text rest
  | .condition :: rest =>
    match text with
    | '\n' :: _ => some (.lineEnd, 1, rest)
    | _ =>
      let spaces := runLength (fun c => isSpace c && c ≠ '\n') text
      if 0 < spaces then some (.blank, spaces, modes) else nextCode? text modes
  | .hole quoting [waiting] :: rest =>
    match text with
    | '\x7d' :: _ =>
      if quoting.braces ≤ runLength (· == '\x7d') text then some (.holeEnd, quoting.braces, rest)
      else none
    | ':' :: after =>
      if waiting = 0 ∧ after.head? ≠ some ':' then
        some (.formatText, 1 + runLength (fun c => c ≠ '\x7d' && c ≠ '"') after, modes)
      else nextCode? text modes
    | _ => nextCode? text modes
  | _ => nextCode? text modes

/-- Cuts a text into lexemes; every lexeme has at least one character, so as much fuel as there are
characters suffices. The text has to end as plain code. -/
def cut? : Nat → List Mode → List Char → Option (List Lexeme)
  | _, [], [] => some []
  | 0, _, _ => none
  | fuel + 1, modes, text =>
    match next? modes text with
    | none => none
    | some (_, 0, _) => none
    | some (kind, length, modes) =>
      (cut? fuel modes (text.drop length)).map (⟨kind, text.take length⟩ :: ·)

/-- The lexemes of a source, if it can be cut up. -/
def lexemes? (source : List Char) : Option (List Lexeme) := cut? source.length [] source

end DeclaredDebt.CSharp
