import DeclaredDebt.Proofs.Merge

/-!
# Where diagnostics come from

Reports come of analyses of sources and paths, and diagnostics come of registered buckets: nothing
else puts a diagnostic into a report, and leaving some out afterwards adds none.

## Main definitions

* `Report.Produced`: the reports that come of analyses.
* `Diagnostic.OfRegistry`: a diagnostic that reports a registered bucket.
-/

namespace DeclaredDebt

/-- The reports that come of analyses of sources and paths, also when small diagnostics have been
left out of them. -/
inductive Report.Produced : Report → Prop where
  | source (a : Analysis) (durationMs : ℕ) (file : Path) (source : List Char) :
    Produced (a.ofSource durationMs file source)
  | path (a : Analysis) (durationMs : ℕ) (t : FileTree) (globs : List (List Glob.Piece))
    (root : Path) {r : Report} (h : a.ofPath durationMs t globs root = .ok r) : Produced r
  | retained (minDays : ℕ) {r : Report} (h : Produced r) : Produced (r.retainMinDays minDays)

/-- A diagnostic that reports a registered bucket. -/
def Diagnostic.OfRegistry (d : Diagnostic) : Prop :=
  ∃ b ∈ Bucket.registry, ∃ severity? location displayName,
    d = Diagnostic.ofBucket severity? location displayName b

theorem Debt.ofRegistry_of_mem_diagnostics {severity? : Option Severity} {d : Debt}
    {diagnostic : Diagnostic} (h : diagnostic ∈ d.diagnostics severity?) :
    diagnostic.OfRegistry := by
  obtain ⟨cost, hcost, rfl⟩ := List.mem_map.1 h
  refine ⟨⟨cost⟩, ?_, severity?, d.location, d.displayName, rfl⟩
  exact List.mem_map.2 ⟨cost, mem_registeredCosts_of_mem_costTiers hcost, rfl⟩

namespace Analysis

theorem ofRegistry_of_mem_outcome {a : Analysis} {file : Path} {usages : List Usage}
    {d : Diagnostic} (h : d ∈ (a.outcome file usages).diagnostics) : d.OfRegistry := by
  rw [diagnostics_outcome, List.mem_flatMap] at h
  obtain ⟨debt, -, hd⟩ := h
  exact Debt.ofRegistry_of_mem_diagnostics hd

theorem ofRegistry_of_mem_outcomeOfFile {a : Analysis} {t : FileTree} {file : Path}
    {d : Diagnostic} (h : d ∈ (a.outcomeOfFile t file).diagnostics) : d.OfRegistry := by
  unfold outcomeOfFile at h
  split at h
  · exact ofRegistry_of_mem_outcome h
  · simp [Outcome.unreadable] at h

/-- A path has a report exactly if its sources can be collected. -/
theorem ofPath_eq_ok_iff {a : Analysis} {durationMs : ℕ} {t : FileTree}
    {globs : List (List Glob.Piece)} {root : Path} {r : Report} :
    a.ofPath durationMs t globs root = .ok r ↔ ∃ files, t.collect globs root = .ok files ∧
      Report.ofOutcomes files.length durationMs (files.map (a.outcomeOfFile t)) = r := by
  unfold ofPath
  cases t.collect globs root with
  | error e => simp [Except.map]
  | ok files => simp [Except.map]

end Analysis

/-- The diagnostics of a report are those of its outcomes. -/
theorem Report.mem_diagnostics_ofOutcomes {filesAnalyzed durationMs : ℕ} {outcomes : List Outcome}
    {d : Diagnostic} : d ∈ (Report.ofOutcomes filesAnalyzed durationMs outcomes).diagnostics ↔
      ∃ o ∈ outcomes, d ∈ o.diagnostics := by
  simp [ofOutcomes]

/-- **What an analysis reports are registered buckets**, also after small ones have been left
out. -/
theorem Report.Produced.ofRegistry {r : Report} (h : r.Produced) :
    ∀ d ∈ r.diagnostics, d.OfRegistry := by
  induction h with
  | source a durationMs file source =>
    intro d hd
    obtain ⟨o, ho, hd⟩ := mem_diagnostics_ofOutcomes.1 hd
    obtain rfl := List.mem_singleton.1 ho
    exact Analysis.ofRegistry_of_mem_outcome hd
  | path a durationMs t globs root h =>
    intro d hd
    obtain ⟨files, -, rfl⟩ := Analysis.ofPath_eq_ok_iff.1 h
    obtain ⟨o, ho, hd⟩ := mem_diagnostics_ofOutcomes.1 hd
    obtain ⟨file, -, rfl⟩ := List.mem_map.1 ho
    exact Analysis.ofRegistry_of_mem_outcomeOfFile hd
  | retained minDays h ih =>
    intro d hd
    exact ih d (List.mem_filter.1 hd).1

/-- A source with one debt of twenty-five days, which takes two buckets. -/
def twoTierSource : List Char :=
  "[ManualTechnicalDebt(SqaleRemediationDaysEffort=25)]class A\x7b\x7d".toList

set_option maxRecDepth 100000 in
theorem length_diagnostics_twoTierSource :
    (({} : Analysis).ofSource 0 ⟨"a.cs"⟩ twoTierSource).diagnostics.length = 2 := by
  rw [Analysis.ofSource, (Analysis.diagnostics_ofUsages _ _ _ _).length_eq, CSharp.parseSource_eq]
  decide +kernel

end DeclaredDebt
