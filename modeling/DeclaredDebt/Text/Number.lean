/-!
# Numbers written in a radix

`readNat limit radix` reads a run of digits from left to right. It stops at the first character
that is not a digit, or as soon as the value read so far is no longer below `limit`, and says which
of the two happened; whichever comes first on the way decides.
-/

namespace DeclaredDebt.Text

/-- What comes of reading a run of digits. -/
inductive NumberRead where
  | value (n : Nat)
  /-- No digit at all. -/
  | empty
  /-- A character that is no digit of the radix. -/
  | badDigit
  /-- A value that is not below the limit. -/
  | tooLarge
  deriving DecidableEq

/-- The value of a digit; letters of either case follow the decimal digits. -/
def digitValue? (radix : Nat) (c : Char) : Option Nat :=
  let n := c.toNat
  let value :=
    if 48 ≤ n ∧ n ≤ 57 then some (n - 48)
    else if 97 ≤ n ∧ n ≤ 122 then some (n - 97 + 10)
    else if 65 ≤ n ∧ n ≤ 90 then some (n - 65 + 10)
    else none
  value.bind fun d => if d < radix then some d else none

/-- Reads the digits that follow a value already read. -/
def readDigits (limit radix : Nat) : Nat → List Char → NumberRead
  | acc, [] => .value acc
  | acc, c :: rest =>
    match digitValue? radix c with
    | none => .badDigit
    | some d =>
      if acc * radix + d < limit then readDigits limit radix (acc * radix + d) rest else .tooLarge

/-- Reads a number below `limit`; one leading plus sign is allowed before a digit. -/
def readNat (limit radix : Nat) : List Char → NumberRead
  | [] => .empty
  | ['+'] => .badDigit
  | '+' :: rest => readDigits limit radix 0 rest
  | text => readDigits limit radix 0 text

end DeclaredDebt.Text
