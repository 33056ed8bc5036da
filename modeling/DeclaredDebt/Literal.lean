import DeclaredDebt.Text.Blank
import DeclaredDebt.Text.Number

/-!
# Integer literals as day counts

A day count is an integer literal of C#: decimal, hexadecimal behind `0x` or binary behind `0b`,
with underscores anywhere and a suffix of the letters `u` and `l`. Counts go up to `maxDays`; a
larger integer overflows, and everything else, real literals included, is no integer.

## Main definitions

* `Literal.body`: a literal without blanks around it, underscores and suffix.
* `Literal.read`: the day count a literal stands for.
-/

namespace DeclaredDebt.Literal

/-- What a literal says about days. -/
inductive Reading where
  | days (n : Nat)
  | overflow
  | notInteger
  deriving DecidableEq

/-- The largest day count. -/
def maxDays : Nat := 65535

/-- Values from here on are not even read to their end. -/
def wordLimit : Nat := Nat.pow 2 64

/-- Whether a letter may stand in the suffix of an integer. -/
def isSuffixLetter (c : Char) : Bool := c == 'u' || c == 'U' || c == 'l' || c == 'L'

/-- A literal without the white space around it, its underscores and its suffix. -/
def body (text : List Char) : List Char :=
  Text.dropEndWhile isSuffixLetter ((Text.trim text).filter (· ≠ '_'))

/-- The radix that the start of a literal's body asks for, and the digits behind it. -/
def radixAndDigits : List Char → Nat × List Char
  | '0' :: 'x' :: digits => (16, digits)
  | '0' :: 'X' :: digits => (16, digits)
  | '0' :: 'b' :: digits => (2, digits)
  | '0' :: 'B' :: digits => (2, digits)
  | digits => (10, digits)

/-- Reads a literal as a day count. -/
def read (text : List Char) : Reading :=
  let (radix, digits) := radixAndDigits (body text)
  match Text.readNat wordLimit radix digits with
  | .value n => if n ≤ maxDays then .days n else .overflow
  | .tooLarge => .overflow
  | .empty => .notInteger
  | .badDigit => .notInteger

end DeclaredDebt.Literal
