/-!
# Globs

A glob describes paths: `?` stands for one byte, `*` for any number of bytes, square brackets for
one of some bytes, braces for one of some globs, and `**` for any number of whole directories. Paths
are compared as the bytes of their text.

Whether `?` and `*` can stand for a slash is not said by the glob but by its use, so matching takes
it as an argument.

## Main definitions

* `Glob.Piece`: the parts of a glob.
* `Glob.parse`: reads a glob, or says what is wrong with it.
* `Glob.matchesBytes`: whether a glob fits all of a path.
-/

namespace DeclaredDebt.Glob

/-- The parts of a glob. -/
inductive Piece where
  /-- A character that stands for itself. -/
  | literal (c : Char)
  /-- One byte. -/
  | anyOne
  /-- Any number of bytes. -/
  | anyMany
  /-- Any number of directories at the start of a path, each with its slash. -/
  | anyStart
  /-- A slash and all that follows. -/
  | anyEnd
  /-- A slash, and any number of directories with theirs. -/
  | anyMiddle
  /-- One byte of some ranges of characters, or of none of them. -/
  | set (negated : Bool) (ranges : List (Char × Char))
  /-- One of some lists of parts. -/
  | choice (alternatives : List (List Piece))

/-- What can be wrong with a glob. -/
inductive Cause where
  | unclosedSet
  | badRange (low high : Char)
  | unopenedChoice
  | unclosedChoice
  | danglingEscape
  deriving DecidableEq

/-- The wording of a cause. -/
def Cause.message : Cause → String
  | .unclosedSet => "unclosed character class; missing ']'"
  | .badRange low high =>
    "invalid range; '" ++ String.singleton low ++ "' > '" ++ String.singleton high ++ "'"
  | .unopenedChoice =>
    "unopened alternate group; missing '\x7b' (maybe escape '\x7d' with '[\x7d]'?)"
  | .unclosedChoice =>
    "unclosed alternate group; missing '\x7d' (maybe escape '\x7b' with '[\x7b]'?)"
  | .danglingEscape => "dangling '\\'"

/-- A text that is no glob. -/
structure Malformed where
  text : String
  cause : Cause
  deriving DecidableEq

/-- The wording of a malformed glob. -/
def Malformed.message (e : Malformed) : String :=
  "error parsing glob '" ++ e.text ++ "': " ++ e.cause.message

/-! ## Reading globs -/

/-- An open choice: the parts before it and its finished alternatives, both last first. -/
structure OpenChoice where
  before : List Piece
  finished : List (List Piece)

/-- How far a glob has been read: the parts of the current alternative, last first, and the choices
that are open, innermost first. -/
structure Progress where
  pieces : List Piece := []
  choices : List OpenChoice := []

/-- Adds a part. -/
def Progress.add (p : Progress) (piece : Piece) : Progress :=
  { p with pieces := piece :: p.pieces }

/-- Ends the innermost choice. -/
def Progress.close (p : Progress) : Except Cause Progress :=
  match p.choices with
  | [] => .error .unopenedChoice
  | c :: choices =>
    let alternatives := (p.pieces.reverse :: c.finished).reverse
    .ok { pieces := .choice alternatives :: c.before, choices }

/-- Goes on with the next alternative; outside of choices a comma stands for itself. -/
def Progress.comma (p : Progress) : Progress :=
  match p.choices with
  | [] => p.add (.literal ',')
  | c :: choices =>
    { pieces := [], choices := { c with finished := p.pieces.reverse :: c.finished } :: choices }

/-- Two stars that mean no more than one. -/
def Progress.plainStars (p : Progress) : Progress := (p.add .anyMany).add .anyMany

/-- Puts a part for whole directories in the place of the slash before it. -/
def Progress.replaceSlash (p : Progress) (piece : Piece) : Progress :=
  match p.pieces with
  | .anyStart :: _ => p
  | .anyEnd :: _ => p
  | _ :: rest => { p with pieces := piece :: rest }
  | [] => p

/-- Two stars, with the character before them and the text behind them; the text left is returned.
They mean whole directories only between slashes or at the ends of an alternative. -/
def doubleStar (p : Progress) (previous? : Option Char) (rest : List Char) :
    Progress × List Char :=
  if p.pieces.isEmpty then
    match rest with
    | [] => (p.add .anyStart, [])
    | '/' :: rest => (p.add .anyStart, rest)
    | rest => (p.plainStars, rest)
  else if previous? ≠ some '/' ∧
      (p.choices.isEmpty ∨ (previous? ≠ some ',' ∧ previous? ≠ some '\x7b')) then
    (p.plainStars, rest)
  else
    match rest with
    | [] => (p.replaceSlash .anyEnd, [])
    | '/' :: rest => (p.replaceSlash .anyMiddle, rest)
    | c :: rest =>
      if (c = ',' ∨ c = '\x7d') ∧ !p.choices.isEmpty then (p.replaceSlash .anyEnd, c :: rest)
      else (p.plainStars, c :: rest)

/-- Ends a range at a character. -/
def endRange (ranges : List (Char × Char)) (high : Char) : Except Cause (List (Char × Char)) :=
  match ranges with
  | (low, _) :: rest =>
    if high < low then .error (.badRange low high) else .ok ((low, high) :: rest)
  | [] => .ok []

/-- Reads the ranges of a set up to its closing bracket, last first. A bracket or dash that comes
first stands for itself, and so does a dash that comes last. -/
def readRanges (ranges : List (Char × Char)) (first inRange : Bool) :
    List Char → Except Cause (List (Char × Char) × List Char)
  | [] => .error .unclosedSet
  | c :: rest =>
    if c = ']' ∧ !first then .ok (if inRange then ('-', '-') :: ranges else ranges, rest)
    else if c = '-' ∧ !first ∧ !inRange then readRanges ranges false true rest
    else if inRange then
      match endRange ranges c with
      | .error e => .error e
      | .ok ranges => readRanges ranges false false rest
    else readRanges ((c, c) :: ranges) false false rest

/-- Reads a set behind its opening bracket. -/
def readSet (text : List Char) : Except Cause (Piece × List Char) :=
  let (negated, text) := match text with
    | '!' :: rest => (true, rest)
    | '^' :: rest => (true, rest)
    | text => (false, text)
  match readRanges [] true false text with
  | .error e => .error e
  | .ok (ranges, rest) => .ok (.set negated ranges.reverse, rest)

/-- Reads the parts of a glob. Every step takes a character, so as much fuel as there are
characters suffices. -/
def readPieces : Nat → Progress → Option Char → List Char → Except Cause (List Piece)
  | _, p, _, [] => if p.choices.isEmpty then .ok p.pieces.reverse else .error .unclosedChoice
  | 0, _, _, _ => .error .unclosedChoice
  | fuel + 1, p, previous?, c :: rest =>
    match c with
    | '?' => readPieces fuel (p.add .anyOne) (some c) rest
    | '*' =>
      match rest with
      | '*' :: rest =>
        let (p, left) := doubleStar p previous? rest
        readPieces fuel p (some (if left.length < rest.length then '/' else '*')) left
      | rest => readPieces fuel (p.add .anyMany) (some c) rest
    | '[' =>
      match readSet rest with
      | .error e => .error e
      | .ok (piece, rest) => readPieces fuel (p.add piece) (some ']') rest
    | '\x7b' =>
      readPieces fuel { pieces := [], choices := ⟨p.pieces, []⟩ :: p.choices } (some c) rest
    | '\x7d' =>
      match p.close with
      | .error e => .error e
      | .ok p => readPieces fuel p (some c) rest
    | ',' => readPieces fuel p.comma (some c) rest
    | '\\' =>
      match rest with
      | [] => .error .danglingEscape
      | c :: rest => readPieces fuel (p.add (.literal c)) (some c) rest
    | c => readPieces fuel (p.add (.literal c)) (some c) rest

/-- Reads a glob. -/
def parse (text : String) : Except Malformed (List Piece) :=
  match readPieces text.length {} none text.toList with
  | .ok pieces => .ok pieces
  | .error cause => .error ⟨text, cause⟩

/-! ## Matching -/

/-- The byte of a slash. -/
def slash : UInt8 := 47

/-- The bytes of a text. -/
def bytesOf (text : List Char) : List UInt8 := text.flatMap String.utf8EncodeChar

/-- Every end of a text, the text itself included. -/
def suffixes : List UInt8 → List (List UInt8)
  | [] => [[]]
  | b :: rest => (b :: rest) :: suffixes rest

/-- Every end of a text that begins behind a slash. -/
def behindSlashes : List UInt8 → List (List UInt8)
  | [] => []
  | b :: rest => if b = slash then rest :: behindSlashes rest else behindSlashes rest

/-- Every end of a text that is reached without a slash. -/
def withinName : List UInt8 → List (List UInt8)
  | [] => [[]]
  | b :: rest => if b = slash then [b :: rest] else (b :: rest) :: withinName rest

/-- The text behind given bytes, if it starts with them. -/
def behind? : List UInt8 → List UInt8 → Option (List UInt8)
  | [], text => some text
  | b :: bytes, c :: text => if b = c then behind? bytes text else none
  | _ :: _, [] => none

/-- The ranges of bytes for a range of characters. Only the last byte of the lower and the first
byte of the higher character bound a range; the bytes around them stand for themselves. -/
def byteRanges (range : Char × Char) : List (UInt8 × UInt8) :=
  let low := String.utf8EncodeChar range.1
  let high := String.utf8EncodeChar range.2
  if range.1 = range.2 then low.map fun b => (b, b)
  else
    low.dropLast.map (fun b => (b, b)) ++ [(low.getLastD 0, high.headD 0)] ++
      (high.drop 1).map fun b => (b, b)

/-- Whether a byte is in a set. -/
def inSet (negated : Bool) (ranges : List (Char × Char)) (b : UInt8) : Bool :=
  (ranges.flatMap byteRanges).any (fun r => r.1 ≤ b && b ≤ r.2) != negated

mutual
/-- Whether a part stands for the empty text only. -/
def Piece.isVoid : Piece → Bool
  | .choice alternatives => allVoid alternatives
  | _ => false

/-- Whether some parts stand for the empty text only. -/
def areVoid : List Piece → Bool
  | [] => true
  | p :: rest => p.isVoid && areVoid rest

/-- Whether every alternative stands for the empty text only. -/
def allVoid : List (List Piece) → Bool
  | [] => true
  | ps :: rest => areVoid ps && allVoid rest
end

/-- Leaves out ends of a text that occur again. -/
def distinct (rests : List (List UInt8)) : List (List UInt8) :=
  rests.foldr (fun r acc => if acc.any (·.length == r.length) then acc else r :: acc) []

mutual
/-- What is left of a text behind a part, in every way it can fit. -/
def Piece.rests (crossing : Bool) : Piece → List UInt8 → List (List UInt8)
  | .literal c, text => (behind? (String.utf8EncodeChar c) text).toList
  | .anyOne, text =>
    match text with
    | b :: rest => if b = slash ∧ !crossing then [] else [rest]
    | [] => []
  | .anyMany, text => if crossing then suffixes text else withinName text
  | .anyStart, text => text :: behindSlashes text
  | .anyEnd, text =>
    match text with
    | b :: rest => if b = slash then suffixes rest else []
    | [] => []
  | .anyMiddle, text =>
    match text with
    | b :: rest => if b = slash then rest :: behindSlashes rest else []
    | [] => []
  | .set negated ranges, text =>
    match text with
    | b :: rest => if inSet negated ranges b then [rest] else []
    | [] => []
  | .choice alternatives, text =>
    if allVoid alternatives then [text] else choiceRests crossing alternatives text

/-- What is left of a text behind some parts. -/
def restsOf (crossing : Bool) : List Piece → List UInt8 → List (List UInt8)
  | [], text => [text]
  | p :: rest, text =>
    distinct ((distinct (p.rests crossing text)).flatMap (restsOf crossing rest))

/-- What is left of a text behind one of some alternatives; void alternatives are none. -/
def choiceRests (crossing : Bool) : List (List Piece) → List UInt8 → List (List UInt8)
  | [], _ => []
  | ps :: rest, text =>
    (if areVoid ps then [] else restsOf crossing ps text) ++ choiceRests crossing rest text
end

/-- Whether a glob fits all of a path. Two stars alone fit everything. -/
def matchesBytes (crossing : Bool) (pieces : List Piece) (path : List UInt8) : Bool :=
  match pieces with
  | [.anyStart] => true
  | pieces => (restsOf crossing pieces path).any List.isEmpty

end DeclaredDebt.Glob
