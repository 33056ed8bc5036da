import DeclaredDebt.Summary

/-!
# Reports

What an analysis of some files found: diagnostics in the order of their places, their summary, how
many files were read and attributes matched, and what could not be analysed.
-/

namespace DeclaredDebt

/-- Something in a file that could not be analysed. -/
structure FileError where
  file : Path
  message : String
  deriving DecidableEq

/-- The result of an analysis. -/
structure Report where
  diagnostics : List Diagnostic
  summary : Summary
  filesAnalyzed : Nat
  annotationsMatched : Nat
  errors : List FileError := []
  durationMs : Nat := 0
  deriving DecidableEq

namespace Report

/-- Whether anything could not be analysed. -/
def hasErrors (r : Report) : Bool := !r.errors.isEmpty

/-- Keeps the diagnostics of at least so many days and takes the summary anew. -/
def retainMinDays (r : Report) (minDays : Nat) : Report :=
  let kept := r.diagnostics.filter (minDays ≤ ·.days)
  { r with diagnostics := kept, summary := Summary.ofDiagnostics kept }

end Report

end DeclaredDebt
