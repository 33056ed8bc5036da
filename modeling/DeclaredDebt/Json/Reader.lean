import DeclaredDebt.Json
import DeclaredDebt.Text.Number

/-!
# Reading JSON

`Json.read?` reads a whole text as one value. Blanks are the four of the format, numbers have no
leading zeros, and a string literal holds no raw control character. A literal whose escapes do not
make a text can stand where nothing is made of it: it is read as `Json.broken`, and so is an object
with such a name. A reading takes as much fuel as the text has characters, which always suffices,
since every step takes at least one.
-/

namespace DeclaredDebt.Json

/-- The characters between tokens. -/
def isGap (c : Char) : Bool := c == ' ' || c == '\t' || c == '\n' || c == '\r'

/-- The text from the next token on. -/
def skipGap (text : List Char) : List Char := text.dropWhile isGap

/-- Four hexadecimal digits as a code unit. -/
def codeUnit? (a b c d : Char) : Option Nat := do
  let a ← Text.digitValue? 16 a
  let b ← Text.digitValue? 16 b
  let c ← Text.digitValue? 16 c
  let d ← Text.digitValue? 16 d
  return ((a * 16 + b) * 16 + c) * 16 + d

/-- The character that a short escape stands for. -/
def shortEscape? : Char → Option Char
  | '"' => some '"'
  | '\\' => some '\\'
  | '/' => some '/'
  | 'b' => some '\x08'
  | 'f' => some '\x0c'
  | 'n' => some '\n'
  | 'r' => some '\r'
  | 't' => some '\t'
  | _ => none

/-- The code units of a string literal behind its opening quote, and the text behind it. A
character outside the basic plane counts as one unit unless it is written as two escapes. -/
def readUnits : List Char → Option (List Nat × List Char)
  | [] => none
  | '"' :: rest => some ([], rest)
  | '\\' :: 'u' :: a :: b :: c :: d :: rest => do
    let unit ← codeUnit? a b c d
    let (units, rest) ← readUnits rest
    return (unit :: units, rest)
  | '\\' :: c :: rest => do
    let c ← shortEscape? c
    let (units, rest) ← readUnits rest
    return (c.toNat :: units, rest)
  | c :: rest =>
    if c = '\\' ∨ c.toNat < 32 then none
    else do
      let (units, rest) ← readUnits rest
      return (c.toNat :: units, rest)

/-- Whether a code unit is the first half of a pair. -/
def isHighHalf (n : Nat) : Bool := 0xD800 ≤ n && n < 0xDC00

/-- Whether a code unit is the second half of a pair. -/
def isLowHalf (n : Nat) : Bool := 0xDC00 ≤ n && n < 0xE000

/-- The text that code units stand for; halves have to come in pairs. -/
def decodeUnits? : List Nat → Option (List Char)
  | [] => some []
  | [n] => if isHighHalf n || isLowHalf n then none else some [Char.ofNat n]
  | n :: m :: rest =>
    if isHighHalf n then
      if isLowHalf m then
        (decodeUnits? rest).map (Char.ofNat (0x10000 + (n - 0xD800) * 0x400 + (m - 0xDC00)) :: ·)
      else none
    else if isLowHalf n then none
    else (decodeUnits? (m :: rest)).map (Char.ofNat n :: ·)

/-- A run of decimal digits and the text behind it; there has to be one. -/
def readRun (text : List Char) : Option (List Char × List Char) :=
  match text.span (·.isDigit) with
  | ([], _) => none
  | (digits, rest) => some (digits, rest)

/-- The fraction of a number, if there is one. -/
def readFraction : List Char → Option (List Char × List Char)
  | '.' :: text => do
    let (digits, rest) ← readRun text
    return ('.' :: digits, rest)
  | text => some ([], text)

/-- The exponent of a number, if there is one. -/
def readExponent : List Char → Option (List Char × List Char)
  | c :: text =>
    if c = 'e' ∨ c = 'E' then
      let (sign, text) := match text with
        | '+' :: text => (['+'], text)
        | '-' :: text => (['-'], text)
        | text => ([], text)
      do
        let (digits, rest) ← readRun text
        return (c :: sign ++ digits, rest)
    else some ([], c :: text)
  | [] => some ([], [])

/-- A number. -/
def readNumber (text : List Char) : Option (Json × List Char) := do
  let (sign, text) := match text with
    | '-' :: text => (['-'], text)
    | text => ([], text)
  let (digits, text) ← readRun text
  if digits.head? = some '0' ∧ digits.length ≠ 1 then none
  else do
    let (fraction, text) ← readFraction text
    let (exponent, text) ← readExponent text
    if sign ++ fraction ++ exponent = [] then
      return (.nat (digits.foldl (fun n c => 10 * n + (c.toNat - 48)) 0), text)
    else return (.decimal (String.ofList (sign ++ digits ++ fraction ++ exponent)), text)

/-- An object from its members, of which those whose names are no texts have none. -/
def ofMembers (members : List (Option String × Json)) : Json :=
  match members.mapM fun (m : Option String × Json) => m.1.map fun name => (name, m.2) with
  | some members => .object members
  | none => .broken

mutual
/-- A value at the start of a text. -/
def readValue : Nat → List Char → Option (Json × List Char)
  | 0, _ => none
  | fuel + 1, text =>
    match text with
    | 'n' :: 'u' :: 'l' :: 'l' :: rest => some (.null, rest)
    | 't' :: 'r' :: 'u' :: 'e' :: rest => some (.bool true, rest)
    | 'f' :: 'a' :: 'l' :: 's' :: 'e' :: rest => some (.bool false, rest)
    | '"' :: rest => do
      let (units, rest) ← readUnits rest
      match decodeUnits? units with
      | some text => return (.string (String.ofList text), rest)
      | none => return (.broken, rest)
    | '[' :: rest =>
      match skipGap rest with
      | ']' :: rest => some (.array [], rest)
      | rest => do
        let (elements, rest) ← readElements fuel rest
        return (.array elements, rest)
    | '\x7b' :: rest =>
      match skipGap rest with
      | '\x7d' :: rest => some (.object [], rest)
      | rest => do
        let (members, rest) ← readMembers fuel rest
        return (ofMembers members, rest)
    | text => readNumber text

/-- The elements of an array, up to its closing bracket. -/
def readElements : Nat → List Char → Option (List Json × List Char)
  | 0, _ => none
  | fuel + 1, text => do
    let (v, rest) ← readValue fuel text
    match skipGap rest with
    | ',' :: rest => do
      let (more, rest) ← readElements fuel (skipGap rest)
      return (v :: more, rest)
    | ']' :: rest => return ([v], rest)
    | _ => none

/-- The members of an object, up to its closing brace. -/
def readMembers : Nat → List Char → Option (List (Option String × Json) × List Char)
  | 0, _ => none
  | fuel + 1, text =>
    match text with
    | '"' :: rest => do
      let (units, rest) ← readUnits rest
      let key := (decodeUnits? units).map String.ofList
      match skipGap rest with
      | ':' :: rest => do
        let (v, rest) ← readValue fuel (skipGap rest)
        match skipGap rest with
        | ',' :: rest => do
          let (more, rest) ← readMembers fuel (skipGap rest)
          return ((key, v) :: more, rest)
        | '\x7d' :: rest => return ([(key, v)], rest)
        | _ => none
      | _ => none
    | _ => none
end

/-- Reads a text that holds one value and blanks around it. -/
def readText? (text : List Char) : Option Json := do
  let (v, rest) ← readValue (text.length + 1) (skipGap text)
  if (skipGap rest).isEmpty then return v else none

/-- Reads a whole text as one value. -/
def read? (text : String) : Option Json := readText? text.toList

end DeclaredDebt.Json
