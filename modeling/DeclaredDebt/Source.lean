import DeclaredDebt.Analysis
import DeclaredDebt.CSharp.Attribute

/-!
# Source files

Which files hold sources, and the analysis of one source.
-/

namespace DeclaredDebt

/-- The extensions of the files that are analysed. -/
def supportedExtensions : List String := ["cs"]

/-- The language of files with an extension. -/
def languageOfExtension? (extension : String) : Option String :=
  if extension = "cs" then some "C#" else none

/-- Whether a path has the extension of a source. -/
def Path.isSupported (p : Path) : Bool :=
  match p.extension? with
  | some extension => supportedExtensions.any (·.toList == extension)
  | none => false

/-- The report on a single source. -/
def Analysis.ofSource (a : Analysis) (durationMs : Nat) (file : Path) (source : List Char) :
    Report :=
  a.ofUsages durationMs file (CSharp.parseSource file source a.recovery).usages

end DeclaredDebt
