/-!
# JSON values

Values as reports and settings use them, and how they are laid out as text. Numbers that are plain
natural numbers are kept as such; every other number is kept as it was written, since nothing here
computes with it.

## Main definitions

* `Json`: a value; the members of an object keep their order.
* `Json.quote`: a text as a string literal.
* `Json.pretty`: a value over several lines, two blanks a level.
* `Json.compact`: a value on one line.
-/

namespace DeclaredDebt

/-- A JSON value. -/
inductive Json where
  | null
  | bool (value : Bool)
  /-- A number written with digits only. -/
  | nat (value : Nat)
  /-- Any other number, as written. -/
  | decimal (text : String)
  | string (text : String)
  /-- A string literal with half of a surrogate pair, which stands for no text, or an object with
  such a name. -/
  | broken
  | array (elements : List Json)
  | object (members : List (String × Json))

namespace Json

instance : Inhabited Json := ⟨.null⟩

/-- The escape sequence of a character below the blank. -/
def controlEscape (c : Char) : List Char :=
  match c with
  | '\x08' => ['\\', 'b']
  | '\t' => ['\\', 't']
  | '\n' => ['\\', 'n']
  | '\x0c' => ['\\', 'f']
  | '\r' => ['\\', 'r']
  | c => ['\\', 'u', '0', '0', Nat.digitChar (c.toNat / 16), Nat.digitChar (c.toNat % 16)]

/-- A character inside a string literal. Only the quote, the backslash and characters below the
blank are escaped. -/
def escape (c : Char) : List Char :=
  if c = '"' then ['\\', '"']
  else if c = '\\' then ['\\', '\\']
  else if c.toNat < 32 then controlEscape c
  else [c]

/-- A text as a string literal. -/
def quote (text : String) : List Char :=
  '"' :: text.toList.flatMap escape ++ ['"']

/-- The start of a line at a level. -/
def newline (level : Nat) : List Char := '\n' :: List.replicate (2 * level) ' '

mutual
/-- A value that starts somewhere on a line of the given level. -/
def layout (level : Nat) : Json → List Char
  | .null => "null".toList
  | .bool true => "true".toList
  | .bool false => "false".toList
  | .nat n => Nat.toDigits 10 n
  | .decimal text => text.toList
  | .string text => quote text
  | .broken => "null".toList
  | .array [] => ['[', ']']
  | .array (v :: rest) =>
    '[' :: newline (level + 1) ++ layout (level + 1) v ++ layoutRest (level + 1) rest ++
      newline level ++ [']']
  | .object [] => ['\x7b', '\x7d']
  | .object ((key, v) :: rest) =>
    '\x7b' :: newline (level + 1) ++ quote key ++ [':', ' '] ++ layout (level + 1) v ++
      layoutMembers (level + 1) rest ++ newline level ++ ['\x7d']

/-- The elements behind the first one. -/
def layoutRest (level : Nat) : List Json → List Char
  | [] => []
  | v :: rest => ',' :: newline level ++ layout level v ++ layoutRest level rest

/-- The members behind the first one. -/
def layoutMembers (level : Nat) : List (String × Json) → List Char
  | [] => []
  | (key, v) :: rest =>
    ',' :: newline level ++ quote key ++ [':', ' '] ++ layout level v ++ layoutMembers level rest
end

/-- A value over several lines. -/
def pretty (v : Json) : String := String.ofList (layout 0 v)

mutual
/-- A value on one line. -/
def line : Json → List Char
  | .null => "null".toList
  | .bool true => "true".toList
  | .bool false => "false".toList
  | .nat n => Nat.toDigits 10 n
  | .decimal text => text.toList
  | .string text => quote text
  | .broken => "null".toList
  | .array [] => ['[', ']']
  | .array (v :: rest) => '[' :: line v ++ lineRest rest ++ [']']
  | .object [] => ['\x7b', '\x7d']
  | .object ((key, v) :: rest) =>
    '\x7b' :: quote key ++ ':' :: line v ++ lineMembers rest ++ ['\x7d']

/-- The elements behind the first one, on one line. -/
def lineRest : List Json → List Char
  | [] => []
  | v :: rest => ',' :: line v ++ lineRest rest

/-- The members behind the first one, on one line. -/
def lineMembers : List (String × Json) → List Char
  | [] => []
  | (key, v) :: rest => ',' :: quote key ++ ':' :: line v ++ lineMembers rest
end

/-- A value on one line. -/
def compact (v : Json) : String := String.ofList (line v)

end Json

end DeclaredDebt
