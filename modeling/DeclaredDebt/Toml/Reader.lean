import DeclaredDebt.Text.Number
import DeclaredDebt.Toml

/-!
# Reading TOML

`Toml.read?` reads a whole text as a document. A reading either takes the start of a text and
answers what it stands for and what is left, or does not fit. Values inside values are read with as
much fuel as the text has characters.
-/

namespace DeclaredDebt.Toml

/-! ## Gaps -/

/-- Whether a character is a blank or a tab. -/
def isTab (c : Char) : Bool := c == ' ' || c == '\t'

/-- A text from its first character that is neither blank nor tab. -/
def skipTabs (text : List Char) : List Char := text.dropWhile isTab

/-- Whether a character can stand in a comment: no control character but the tab. -/
def isCommentChar (c : Char) : Bool := c == '\t' || (32 ≤ c.toNat && c.toNat ≠ 127)

/-- A text without the comment at its start. -/
def skipComment : List Char → List Char
  | '#' :: rest => rest.dropWhile isCommentChar
  | text => text

/-- The text behind a line end. -/
def newline? : List Char → Option (List Char)
  | '\n' :: rest => some rest
  | '\r' :: '\n' :: rest => some rest
  | _ => none

/-- The text behind what may end a line: blanks, a comment, and a line end or the end of the
text. -/
def lineEnd? (text : List Char) : Option (List Char) :=
  match skipComment (skipTabs text) with
  | [] => some []
  | text => newline? text

/-- A text without blanks, comments and line ends at its start; so many lines at most. -/
def skipLines : Nat → List Char → List Char
  | 0, text => text
  | n + 1, text =>
    let rest := skipComment (skipTabs text)
    match newline? rest with
    | some rest => skipLines n rest
    | none => rest

/-! ## Strings -/

/-- Whether a character can stand in a string as it is. -/
def isTextChar (c : Char) : Bool := isCommentChar c

/-- Hexadecimal digits as a character, if they stand for one. -/
def scalar? (digits : List Char) : Option Char :=
  match Text.readDigits (Nat.pow 2 32) 16 0 digits with
  | .value n => if n.isValidChar then some (Char.ofNat n) else none
  | _ => none

/-- The character of an escape sequence behind its backslash. -/
def escape? : List Char → Option (Char × List Char)
  | 'b' :: rest => some ('\x08', rest)
  | 't' :: rest => some ('\t', rest)
  | 'n' :: rest => some ('\n', rest)
  | 'f' :: rest => some ('\x0c', rest)
  | 'r' :: rest => some ('\r', rest)
  | '"' :: rest => some ('"', rest)
  | '\\' :: rest => some ('\\', rest)
  | 'u' :: a :: b :: c :: d :: rest => (scalar? [a, b, c, d]).map (·, rest)
  | 'U' :: a :: b :: c :: d :: e :: f :: g :: h :: rest =>
    (scalar? [a, b, c, d, e, f, g, h]).map (·, rest)
  | _ => none

/-- A basic string on one line, behind its opening quote. -/
def readBasic : Nat → List Char → Option (List Char × List Char)
  | 0, _ => none
  | fuel + 1, text =>
    match text with
    | '"' :: rest => some ([], rest)
    | '\\' :: rest => do
      let (c, rest) ← escape? rest
      let (text, rest) ← readBasic fuel rest
      return (c :: text, rest)
    | c :: rest =>
      if isTextChar c then do
        let (text, rest) ← readBasic fuel rest
        return (c :: text, rest)
      else none
    | [] => none

/-- A literal string on one line, behind its opening quote. -/
def readLiteral : List Char → Option (List Char × List Char)
  | '\'' :: rest => some ([], rest)
  | c :: rest =>
    if isTextChar c then do
      let (text, rest) ← readLiteral rest
      return (c :: text, rest)
    else none
  | [] => none

/-- Three quotes that end a string over several lines, and up to two quotes before them that belong
to it. -/
def closing? (quote : Char) (text : List Char) : Option (List Char × List Char) :=
  let quotes := min 5 (text.takeWhile (· == quote)).length
  if 3 ≤ quotes then some (List.replicate (quotes - 3) quote, text.drop quotes) else none

/-- The text behind a backslash at the end of a line: all blanks and line ends are skipped. -/
def skipFolded : Nat → List Char → Option (List Char)
  | 0, _ => none
  | n + 1, text =>
    match newline? (skipTabs text) with
    | none => none
    | some rest => some ((skipFolded n rest).getD (skipTabs rest))

/-- A basic string over several lines, behind its opening quotes. -/
def readLongBasic : Nat → List Char → Option (List Char × List Char)
  | 0, _ => none
  | fuel + 1, text =>
    match closing? '"' text with
    | some result => some result
    | none =>
      match text with
      | '\\' :: rest =>
        match skipFolded (rest.length + 1) rest with
        | some rest => readLongBasic fuel rest
        | none => do
          let (c, rest) ← escape? rest
          let (text, rest) ← readLongBasic fuel rest
          return (c :: text, rest)
      | text =>
        match newline? text with
        | some rest => do
          let (text, rest) ← readLongBasic fuel rest
          return ('\n' :: text, rest)
        | none =>
          match text with
          | c :: rest =>
            if isTextChar c then do
              let (text, rest) ← readLongBasic fuel rest
              return (c :: text, rest)
            else none
          | [] => none

/-- A literal string over several lines, behind its opening quotes. -/
def readLongLiteral : Nat → List Char → Option (List Char × List Char)
  | 0, _ => none
  | fuel + 1, text =>
    match closing? '\'' text with
    | some result => some result
    | none =>
      match newline? text with
      | some rest => do
        let (text, rest) ← readLongLiteral fuel rest
        return ('\n' :: text, rest)
      | none =>
        match text with
        | c :: rest =>
          if isTextChar c then do
            let (text, rest) ← readLongLiteral fuel rest
            return (c :: text, rest)
          else none
        | [] => none

/-- A text without a line end at its start. -/
def dropNewline (text : List Char) : List Char := (newline? text).getD text

/-- A string. -/
def readString (text : List Char) : Option (List Char × List Char) :=
  match text with
  | '"' :: '"' :: '"' :: rest => readLongBasic (rest.length + 1) (dropNewline rest)
  | '\'' :: '\'' :: '\'' :: rest => readLongLiteral (rest.length + 1) (dropNewline rest)
  | '"' :: rest => readBasic (rest.length + 1) rest
  | '\'' :: rest => readLiteral rest
  | _ => none

/-! ## Names -/

/-- Whether a character can stand in a name without quotes. -/
def isBareChar (c : Char) : Bool := c.isAlphanum || c == '_' || c == '-'

/-- A name, with or without quotes. -/
def readName (text : List Char) : Option (String × List Char) :=
  match text with
  | '"' :: rest => (readBasic (rest.length + 1) rest).map fun r => (String.ofList r.1, r.2)
  | '\'' :: rest => (readLiteral rest).map fun r => (String.ofList r.1, r.2)
  | text =>
    match text.span isBareChar with
    | ([], _) => none
    | (name, rest) => some (String.ofList name, rest)

/-- A dotted name, with blanks around its points. -/
def readPath : Nat → List Char → Option (List String × List Char)
  | 0, _ => none
  | fuel + 1, text => do
    let (name, rest) ← readName text
    match skipTabs rest with
    | '.' :: rest => do
      let (path, rest) ← readPath fuel (skipTabs rest)
      return (name :: path, rest)
    | _ => return ([name], rest)

/-! ## Numbers and dates -/

/-- Digits of a class with single low lines between them; the low lines are dropped. -/
def readDigitRun (p : Char → Bool) (text : List Char) : Option (List Char × List Char) :=
  match text with
  | c :: rest => if p c then some (go c rest) else none
  | [] => none
where
  /-- The digits behind one. -/
  go (digit : Char) : List Char → List Char × List Char
    | '_' :: c :: rest =>
      if p c then
        let (digits, rest) := go c rest
        (digit :: digits, rest)
      else ([digit], '_' :: c :: rest)
    | c :: rest =>
      if p c then
        let (digits, rest) := go c rest
        (digit :: digits, rest)
      else ([digit], c :: rest)
    | [] => ([digit], [])

/-- A sign and the text behind it; no sign counts as plus. -/
def readSign : List Char → Bool × List Char
  | '-' :: rest => (true, rest)
  | '+' :: rest => (false, rest)
  | text => (false, text)

/-- A decimal integer without sign. A zero stands alone. -/
def readDecimal : List Char → Option (List Char × List Char)
  | '0' :: rest => some (['0'], rest)
  | text => readDigitRun Char.isDigit text

/-- The value of digits. -/
def valueOf (radix : Nat) (digits : List Char) : Nat :=
  digits.foldl (fun n c => radix * n + (Text.digitValue? radix c).getD 0) 0

/-- An integer that fits 64 bits. -/
def boundedInteger (negative : Bool) (n : Nat) : Option Toml :=
  if negative then (if n ≤ Nat.pow 2 63 then some (.integer (-n)) else none)
  else if n < Nat.pow 2 63 then some (.integer n) else none

/-- An integer. -/
def readInteger (text : List Char) : Option (Toml × List Char) :=
  let other (radix : Nat) (p : Char → Bool) (rest : List Char) : Option (Toml × List Char) := do
    let (digits, rest) ← readDigitRun p rest
    return (← boundedInteger false (valueOf radix digits), rest)
  match text with
  | '0' :: 'x' :: rest => other 16 (fun c => (Text.digitValue? 16 c).isSome) rest
  | '0' :: 'o' :: rest => other 8 (fun c => (Text.digitValue? 8 c).isSome) rest
  | '0' :: 'b' :: rest => other 2 (fun c => (Text.digitValue? 2 c).isSome) rest
  | text => do
    let (negative, rest) := readSign text
    let (digits, rest) ← readDecimal rest
    return (← boundedInteger negative (valueOf 10 digits), rest)

/-- The digits of a fraction. -/
def readFraction : List Char → Option (List Char × List Char)
  | '.' :: rest => readDigitRun Char.isDigit rest
  | _ => none

/-- The sign and the digits of an exponent. -/
def readExponent : List Char → Option ((Bool × List Char) × List Char)
  | c :: rest =>
    if c = 'e' ∨ c = 'E' then do
      let (negative, rest) := readSign rest
      let (digits, rest) ← readDigitRun Char.isDigit rest
      return ((negative, digits), rest)
    else none
  | [] => none

/-- The least number that is too large for a floating point number of 64 bits. -/
def floatLimit : Nat := Nat.pow 2 1024 - Nat.pow 2 970

/-- Whether `mantissa / 10 ^ places` with an exponent is below `floatLimit`. -/
def fitsFloat (mantissa : List Char) (places : Nat) (negative : Bool) (exponent : List Char) :
    Bool :=
  let m := valueOf 10 mantissa
  let e := valueOf 10 exponent
  m == 0 || negative || e ≤ places ||
    (e - places < 400 && m * Nat.pow 10 (e - places) < floatLimit)

/-- A floating point number. One with a plus sign or none is no larger than such numbers are. -/
def readFloat (text : List Char) : Option (Toml × List Char) :=
  let (negative, rest) := readSign text
  match rest with
  | 'i' :: 'n' :: 'f' :: rest => some (.float, rest)
  | 'n' :: 'a' :: 'n' :: rest => some (.float, rest)
  | rest => do
    let (whole, rest) ← readDecimal rest
    match readFraction rest, readExponent rest with
    | none, none => none
    | none, some ((down, exponent), rest) =>
      if negative || fitsFloat whole 0 down exponent then return (.float, rest) else none
    | some (fraction, rest), _ =>
      match readExponent rest with
      | none => return (.float, rest)
      | some ((down, exponent), rest) =>
        if negative || fitsFloat (whole ++ fraction) fraction.length down exponent then
          return (.float, rest)
        else none

/-- So many digits as a number. -/
def readFixed (count : Nat) (text : List Char) : Option (Nat × List Char) :=
  let digits := text.take count
  if digits.length = count ∧ digits.all Char.isDigit then
    some (valueOf 10 digits, text.drop count)
  else none

/-- The text behind a character. -/
def expect (c : Char) : List Char → Option (List Char)
  | d :: rest => if d = c then some rest else none
  | [] => none

/-- The days of a month. -/
def daysIn (year month : Nat) : Nat :=
  if month = 2 then
    if year % 4 = 0 ∧ (year % 100 ≠ 0 ∨ year % 400 = 0) then 29 else 28
  else if month ∈ [4, 6, 9, 11] then 30
  else 31

/-- The text behind a date. -/
def day? (text : List Char) : Option (List Char) := do
  let (year, text) ← readFixed 4 text
  let (month, text) ← readFixed 2 (← expect '-' text)
  let (day, text) ← readFixed 2 (← expect '-' text)
  if 1 ≤ month ∧ month ≤ 12 ∧ 1 ≤ day ∧ day ≤ daysIn year month then return text else none

/-- The text behind a time of day. -/
def time? (text : List Char) : Option (List Char) := do
  let (hour, text) ← readFixed 2 text
  let (minute, text) ← readFixed 2 (← expect ':' text)
  let (second, text) ← readFixed 2 (← expect ':' text)
  if hour ≤ 23 ∧ minute ≤ 59 ∧ second ≤ 60 then
    match text with
    | '.' :: c :: rest => return if c.isDigit then rest.dropWhile Char.isDigit else text
    | text => return text
  else none

/-- The text behind an offset from universal time, if there is one. -/
def skipOffset (text : List Char) : List Char :=
  match text with
  | 'Z' :: rest => rest
  | 'z' :: rest => rest
  | c :: rest =>
    if c = '+' ∨ c = '-' then
      let offset : Option (List Char) := do
        let (hour, rest) ← readFixed 2 rest
        let (minute, rest) ← readFixed 2 (← expect ':' rest)
        if hour ≤ 23 ∧ minute ≤ 59 then return rest else none
      offset.getD text
    else text
  | [] => []

/-- A date, a time, or both. -/
def readDate (text : List Char) : Option (Toml × List Char) :=
  match day? text with
  | some rest =>
    match rest with
    | c :: after =>
      if c = 'T' ∨ c = 't' ∨ c = ' ' then
        match time? after with
        | some rest => some (.date, skipOffset rest)
        | none => some (.date, rest)
      else some (.date, rest)
    | [] => some (.date, [])
  | none => (time? text).map (.date, ·)

/-- A number or a date. -/
def readNumber (text : List Char) : Option (Toml × List Char) :=
  match readDate text with
  | some result => some result
  | none =>
    match readFloat text with
    | some result => some result
    | none => readInteger text

/-! ## Values -/

mutual
/-- A value. -/
def readValue : Nat → List Char → Option (Toml × List Char)
  | 0, _ => none
  | fuel + 1, text =>
    match text with
    | '[' :: rest =>
      match skipLines rest.length rest with
      | ']' :: rest => some (.array [], rest)
      | rest => do
        let (elements, rest) ← readElements fuel rest
        return (.array elements, rest)
    | '\x7b' :: rest =>
      match skipTabs rest with
      | '\x7d' :: rest => some (.table [], rest)
      | rest => do
        let (assignments, rest) ← readAssignments fuel rest
        return (← inlineTable? assignments, rest)
    | 't' :: 'r' :: 'u' :: 'e' :: rest => some (.boolean true, rest)
    | 'f' :: 'a' :: 'l' :: 's' :: 'e' :: rest => some (.boolean false, rest)
    | text =>
      match readString text with
      | some (s, rest) => some (.string (String.ofList s), rest)
      | none => readNumber text

/-- The elements of an array, up to its closing bracket. A comma may stand behind the last. -/
def readElements : Nat → List Char → Option (List Toml × List Char)
  | 0, _ => none
  | fuel + 1, text => do
    let (v, rest) ← readValue fuel text
    match skipLines rest.length rest with
    | ']' :: rest => return ([v], rest)
    | ',' :: rest =>
      match skipLines rest.length rest with
      | ']' :: rest => return ([v], rest)
      | rest => do
        let (more, rest) ← readElements fuel rest
        return (v :: more, rest)
    | _ => none

/-- The assignments of a table between braces, up to its closing brace. -/
def readAssignments : Nat → List Char → Option ((List (List String × Toml)) × List Char)
  | 0, _ => none
  | fuel + 1, text => do
    let (path, rest) ← readPath text.length text
    let rest ← expect '=' (skipTabs rest)
    let (v, rest) ← readValue fuel (skipTabs rest)
    match skipTabs rest with
    | '\x7d' :: rest => return ([(path, v)], rest)
    | ',' :: rest => do
      let (more, rest) ← readAssignments fuel (skipTabs rest)
      return ((path, v) :: more, rest)
    | _ => none
end

/-! ## Documents -/

/-- A header or an assignment. -/
def readStatement (text : List Char) : Option (Statement × List Char) :=
  match text with
  | '[' :: '[' :: rest => do
    let (path, rest) ← readPath rest.length (skipTabs rest)
    let rest ← expect ']' (skipTabs rest)
    return (.arrayTable path, ← expect ']' rest)
  | '[' :: rest => do
    let (path, rest) ← readPath rest.length (skipTabs rest)
    return (.table path, ← expect ']' (skipTabs rest))
  | text => do
    let (path, rest) ← readPath text.length text
    let rest ← expect '=' (skipTabs rest)
    let (v, rest) ← readValue (rest.length + 1) (skipTabs rest)
    return (.assign path v, rest)

/-- The statements of a text, each on a line of its own. -/
def readStatements : Nat → List Char → Option (List Statement)
  | 0, text => if text.isEmpty then some [] else none
  | fuel + 1, text =>
    match skipTabs text with
    | [] => some []
    | rest =>
      match lineEnd? rest with
      | some rest => readStatements fuel rest
      | none => do
        let (s, rest) ← readStatement rest
        let more ← readStatements fuel (← lineEnd? rest)
        return s :: more

/-- A text without a byte order mark at its start. -/
def dropMark : List Char → List Char
  | '\ufeff' :: rest => rest
  | text => text

/-- Reads a whole text as a document. -/
def read? (text : List Char) : Option Toml := do
  let text := dropMark text
  let statements ← readStatements (text.length + 1) text
  return .table (← assemble? statements)

end DeclaredDebt.Toml
