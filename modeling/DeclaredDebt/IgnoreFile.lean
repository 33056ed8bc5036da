import DeclaredDebt.Glob
import DeclaredDebt.Text.Blank

/-!
# Ignore files

An ignore file lists, line by line, what a walk over a directory leaves out. A line is a glob in
which only `**` stands for slashes. `!` before it keeps what an earlier line leaves out; a slash at
its end asks for directories; a slash at its start, or inside it, ties it to the directory of the
file. Of the lines that fit, the last decides.

## Main definitions

* `IgnoreRule.parse?`: the rule of a line, if it has one.
* `IgnoreFile.rules`: the rules of a file.
* `IgnoreFile.verdict?`: what some rules say about a path.
-/

namespace DeclaredDebt

/-- What is said about a path. -/
inductive Verdict where
  | leaveOut
  | keep
  deriving DecidableEq

/-- The rule of a line. -/
structure IgnoreRule where
  verdict : Verdict
  onlyDirectories : Bool
  glob : List Glob.Piece

namespace IgnoreRule

/-- A line without the blanks at its end; an escaped blank at the end keeps all of them. -/
def trimLine (line : List Char) : List Char :=
  if [' ', '\\'].isPrefixOf line.reverse then line else Text.dropEndWhile Text.isBlank line

/-- The slash at the end of a line, and an escape before it, taken off. -/
def splitDirectory (text : List Char) : Bool × List Char :=
  match text.reverse with
  | '/' :: '\\' :: rest => (true, rest.reverse)
  | '/' :: rest => (true, rest.reverse)
  | _ => (false, text)

/-- The glob of a rule: without a slash it fits at any depth, and a glob for everything below a
directory does not fit the directory itself. -/
def globText (anchored : Bool) (text : List Char) : List Char :=
  let text :=
    if anchored || text.contains '/' || text == ['*', '*'] then text else ['*', '*', '/'] ++ text
  if ['*', '*', '/'].isPrefixOf text.reverse then text ++ ['/', '*'] else text

/-- The rule of a line. Blank lines and comments have none, and neither have lines that are no
glob. -/
def parse? (line : List Char) : Option IgnoreRule :=
  if line.head? = some '#' then none
  else
    match trimLine line with
    | [] => none
    | text =>
      let (verdict, anchored, text) := match text with
        | '\\' :: '!' :: rest => (.leaveOut, false, '!' :: rest)
        | '\\' :: '#' :: rest => (.leaveOut, false, '#' :: rest)
        | '!' :: '/' :: rest => (Verdict.keep, true, rest)
        | '!' :: rest => (.keep, false, rest)
        | '/' :: rest => (.leaveOut, true, rest)
        | text => (.leaveOut, false, text)
      let (onlyDirectories, text) := splitDirectory text
      match Glob.parse (String.ofList (globText anchored text)) with
      | .ok glob => some { verdict, onlyDirectories, glob }
      | .error _ => none

/-- Whether a rule fits a path. -/
def fits (r : IgnoreRule) (path : List UInt8) (isDirectory : Bool) : Bool :=
  (!r.onlyDirectories || isDirectory) && Glob.matchesBytes false r.glob path

end IgnoreRule

namespace IgnoreFile

/-- The lines of a file, without their ends; nothing behind the last line feed is no line. -/
def lines : List UInt8 → List (List UInt8)
  | [] => []
  | b :: rest =>
    if b = 10 then [] :: lines rest
    else
      match lines rest with
      | [] => [[b]]
      | line :: more => (b :: line) :: more

/-- A line without a carriage return at its end. -/
def dropReturn (line : List UInt8) : List UInt8 :=
  if line.getLast? = some 13 then line.dropLast else line

/-- The text of a line, if it is valid. -/
def lineText? (line : List UInt8) : Option (List Char) :=
  (String.fromUTF8? ⟨line.toArray⟩).map String.toList

/-- The texts of some lines up to the first that is not valid. -/
def validLines : List (List UInt8) → List (List Char)
  | [] => []
  | line :: rest =>
    match lineText? (dropReturn line) with
    | some text => text :: validLines rest
    | none => []

/-- Lines whose first has no byte order mark. -/
def dropMark : List (List Char) → List (List Char)
  | [] => []
  | line :: rest => line.dropWhile (· == '\ufeff') :: rest

/-- The rules of a file. -/
def rules (content : List UInt8) : List IgnoreRule :=
  (dropMark (validLines (lines content))).filterMap IgnoreRule.parse?

/-- What some rules say about a path: the last that fits decides. -/
def verdict? (rules : List IgnoreRule) (path : List UInt8) (isDirectory : Bool) : Option Verdict :=
  (rules.reverse.find? (·.fits path isDirectory)).map (·.verdict)

end IgnoreFile

end DeclaredDebt
