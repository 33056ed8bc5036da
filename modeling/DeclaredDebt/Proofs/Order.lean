import DeclaredDebt.Collect
import DeclaredDebt.Proofs.StableSort

/-!
# What reports and collections are ordered by

Paths are compared by the keys of their steps, and diagnostics by file, line and column, in that
order. Both comparisons are linear orders on their keys, which is what sorting needs. Errors are
compared by their files alone. Every sort of a report therefore goes by the file first.

## Main definitions

* `Diagnostic.place`: the key that diagnostics are sorted by.
-/

namespace DeclaredDebt

/-! ## The comparisons -/

namespace Path

theorem le_iff (p q : Path) : p.le q = true ↔ p.key ≤ q.key := by
  simp [Path.le]

theorem sortOrder_le : SortOrder Path.le := SortOrder.ofKey Path.key le_iff

end Path

namespace FileError

/-- Errors are sorted by their files alone. -/
theorem sortOrder_file : SortOrder fun a b : FileError => a.file.le b.file :=
  SortOrder.ofKey (·.file.key) fun a b => Path.le_iff a.file b.file

end FileError

namespace Diagnostic

/-- What diagnostics are sorted by: file, then line, then column. -/
def place (d : Diagnostic) : List (List ℕ) ×ₗ ℕ ×ₗ ℕ :=
  toLex (d.location.file.key, toLex (d.location.line, d.location.column))

theorem notAfter_iff (d e : Diagnostic) : d.notAfter e = true ↔ d.place ≤ e.place := by
  simp only [notAfter, place, Prod.Lex.toLex_le_toLex, decide_eq_true_iff]

theorem sortOrder_notAfter : SortOrder notAfter := SortOrder.ofKey place notAfter_iff

/-- Diagnostics are sorted by their files first. -/
theorem key_le_of_notAfter (d e : Diagnostic) (h : d.notAfter e = true) :
    d.location.file.key ≤ e.location.file.key := by
  rw [notAfter_iff, place, place, Prod.Lex.toLex_le_toLex] at h
  rcases h with hlt | ⟨heq, -⟩
  · exact le_of_lt hlt
  · exact le_of_eq heq

end Diagnostic

end DeclaredDebt
