import DeclaredDebt.Diagnostic
import DeclaredDebt.Tally

/-!
# Summaries

The numbers over a list of diagnostics: how many there are, how many days they add up to, how many
there are of each rule, and in how many files they stand.
-/

namespace DeclaredDebt

/-- The numbers over some diagnostics. -/
structure Summary where
  total : Nat
  totalDays : Nat
  byRule : Tally
  filesWithDebt : Nat
  deriving DecidableEq, Inhabited

namespace Summary

/-- The summary of a list of diagnostics. Files count as one when their paths have the same
steps. -/
def ofDiagnostics (diagnostics : List Diagnostic) : Summary where
  total := diagnostics.length
  totalDays := (diagnostics.map (·.days)).foldr (· + ·) 0
  byRule := Tally.ofNames (diagnostics.map (·.ruleId))
  filesWithDebt := (diagnostics.map (·.location.file.key)).eraseDups.length

end Summary

end DeclaredDebt
