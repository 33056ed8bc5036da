import DeclaredDebt.Glob

/-!
# Exclude patterns

The patterns of the settings that keep files out of an analysis. A pattern is a glob on the path
below the analysed directory in which `*` and `?` can stand for a slash. `./` at its start means
nothing, a slash at its end asks for everything below a directory, and a pattern without a slash
fits at any depth.
-/

namespace DeclaredDebt

/-- A pattern that cannot be used. -/
structure BadPattern where
  pattern : String
  cause : Glob.Malformed
  deriving DecidableEq

/-- Says which pattern cannot be used; its cause has a wording of its own. -/
def BadPattern.message (e : BadPattern) : String := "Invalid exclude pattern: " ++ e.pattern

namespace Exclude

/-- A pattern without `./` at its start. -/
def dropDots : List Char → List Char
  | '.' :: '/' :: rest => dropDots rest
  | text => text

/-- The glob that a pattern stands for. -/
def globText (pattern : String) : String :=
  let text := dropDots pattern.toList
  let text := if text.getLast? = some '/' then text ++ ['*', '*'] else text
  String.ofList (if text.contains '/' then text else ['*', '*', '/'] ++ text)

/-- Reads one pattern. -/
def parsePattern (pattern : String) : Except BadPattern (List Glob.Piece) :=
  (Glob.parse (globText pattern)).mapError (⟨pattern, ·⟩)

/-- Reads some patterns; the first that cannot be used is the error. -/
def parse (patterns : List String) : Except BadPattern (List (List Glob.Piece)) :=
  patterns.mapM parsePattern

/-- Whether one of some globs fits a path below the analysed directory. -/
def excludes (globs : List (List Glob.Piece)) (names : List String) : Bool :=
  let path := Glob.bytesOf ("/".intercalate names).toList
  globs.any fun glob => Glob.matchesBytes true glob path

end Exclude

end DeclaredDebt
