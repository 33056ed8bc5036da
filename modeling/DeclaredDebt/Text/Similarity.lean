/-!
# Similar words

How alike two words are, as a number between zero and one. Two characters match if they are equal
and their positions are near each other, and no character matches twice. With `m` matches in words
of lengths `a` and `b`, of which `t` pairs stand in another order, the similarity is the mean of
`m / a`, `m / b` and `(m - t) / m`. Words count as similar from seven tenths on, which is decided
here without division.
-/

namespace DeclaredDebt.Text

/-- Marks the first free character of a word that equals `c` at a position from `low` to below
`high`. The word starts at position `i`. -/
def mark? (c : Char) (low high : Nat) : Nat → List (Char × Bool) → Option (List (Char × Bool))
  | _, [] => none
  | i, (d, taken) :: rest =>
    if low ≤ i ∧ i < high ∧ d = c ∧ taken = false then some ((d, true) :: rest)
    else (mark? c low high (i + 1) rest).map ((d, taken) :: ·)

/-- The characters of a word from position `i` on that find a match, in order, and the other word
with its matches marked. -/
def matchWord (range : Nat) : Nat → List Char → List (Char × Bool) → List Char × List (Char × Bool)
  | _, [], other => ([], other)
  | i, c :: rest, other =>
    match mark? c (i - range) (i + range + 1) 0 other with
    | some other =>
      let (matched, other) := matchWord range (i + 1) rest other
      (c :: matched, other)
    | none => matchWord range (i + 1) rest other

/-- Whether two words are similar. -/
def isSimilar (word other : List Char) : Bool :=
  let a := word.length
  let b := other.length
  let (matched, marked) := matchWord (max a b / 2 - 1) 0 word (other.map (·, false))
  let partners := (marked.filter (·.2)).map (·.1)
  let m := matched.length
  let t := ((matched.zip partners).countP fun p => p.1 != p.2) / 2
  m != 0 && 21 * (a * b * m) ≤ 10 * (m * m * b + m * m * a + (m - t) * (a * b))

end DeclaredDebt.Text
