import DeclaredDebt.Proofs.SummaryCounts

/-!
# Retaining diagnostics of enough days

A report can be cut down again and again to the diagnostics of at least so many days. Each time the
summary is taken anew, so the report that is left has the summary of its diagnostics whatever the
report before it said, and nothing else in it changes. Two cuts are one cut at the larger threshold;
a whole sequence of cuts is therefore one cut at the largest, in whatever order they are made.

## Main definitions

* `Report.Consistent`: a report whose summary is the one of its diagnostics.
* `Summary.AtMost`: a summary in which no number exceeds that of another.
-/

namespace DeclaredDebt

/-! ## Summaries of fewer diagnostics -/

namespace Summary

/-- No number of a summary exceeds that of another. -/
structure AtMost (s t : Summary) : Prop where
  total : s.total ≤ t.total
  totalDays : s.totalDays ≤ t.totalDays
  byRule : ∀ rule, s.byRule.countOf rule ≤ t.byRule.countOf rule
  filesWithDebt : s.filesWithDebt ≤ t.filesWithDebt

/-- What one of two summaries has is at most what they have together. -/
theorem Adds.atMost {s t sum : Summary} (h : Adds s t sum) : s.AtMost sum where
  total := by rw [h.total]; exact Nat.le_add_right _ _
  totalDays := by rw [h.totalDays]; exact Nat.le_add_right _ _
  byRule := by
    intro rule
    rw [h.byRule]
    exact Nat.le_add_right _ _
  filesWithDebt := (le_max_left _ _).trans h.le_filesWithDebt

/-- The diagnostics that pass a test and those that fail it add up to all of them. -/
theorem adds_filter (keep : Diagnostic → Bool) (ds : List Diagnostic) :
    Adds (ofDiagnostics (ds.filter keep)) (ofDiagnostics (ds.filter fun d => !keep d))
      (ofDiagnostics ds) := by
  rw [← ofDiagnostics_perm (List.filter_append_perm keep ds)]
  exact adds_append _ _

end Summary

/-! ## One cut and many -/

namespace Report

/-- The summary of a report is the one of its diagnostics. -/
def Consistent (r : Report) : Prop := r.summary = Summary.ofDiagnostics r.diagnostics

/-- Two cuts are one cut at the larger threshold. -/
theorem retainMinDays_retainMinDays (r : Report) (m n : ℕ) :
    (r.retainMinDays m).retainMinDays n = r.retainMinDays (max m n) := by
  have hkept : (r.diagnostics.filter (m ≤ ·.days)).filter (n ≤ ·.days) =
      r.diagnostics.filter (max m n ≤ ·.days) := by
    rw [List.filter_filter]
    refine List.filter_congr ?_
    intro d _
    simp only [← Bool.decide_and, max_le_iff, and_comm]
  simp only [retainMinDays, hkept]

/-- A sequence of cuts is one cut at the largest threshold of all. -/
theorem foldl_retainMinDays (thresholds : List ℕ) (r : Report) (m : ℕ) :
    thresholds.foldl retainMinDays (r.retainMinDays m) =
      r.retainMinDays (thresholds.foldl max m) := by
  induction thresholds generalizing m with
  | nil => rfl
  | cons n thresholds ih =>
    rw [List.foldl_cons, retainMinDays_retainMinDays, ih, List.foldl_cons]

/-- **A sequence of cuts is one cut at the largest threshold**, in whatever order the cuts are made.
What is left are the diagnostics of at least so many days in their order, with their own summary
whatever the summary was before, and everything else as it was. If the summary was that of the
diagnostics, no number in it grows, and the days drop by those of the diagnostics that were cut
off. -/
theorem retained_by_largest_threshold (r : Report) {thresholds order : List ℕ} {largest : ℕ}
    (hlargest : thresholds.max? = some largest) (horder : order.Perm thresholds) :
    let kept := r.diagnostics.filter (largest ≤ ·.days)
    let cutOff := r.diagnostics.filter (·.days < largest)
    let left := order.foldl retainMinDays r
    left = r.retainMinDays largest ∧
    left = { r with diagnostics := kept, summary := Summary.ofDiagnostics kept } ∧
    (r.Consistent → left.summary.AtMost r.summary ∧
      r.summary.totalDays = left.summary.totalDays + (cutOff.map (·.days)).sum) := by
  intro kept cutOff left
  have hleft : left = r.retainMinDays largest := by
    have hmax : order.max? = some largest := by
      rw [List.max?_eq_some_iff] at hlargest ⊢
      simpa only [horder.mem_iff] using hlargest
    cases order with
    | nil => simp at hmax
    | cons first rest =>
      rw [List.max?_cons', Option.some.injEq] at hmax
      rw [← hmax]
      exact foldl_retainMinDays rest r first
  refine ⟨hleft, hleft, ?_⟩
  intro hconsistent
  have hcutOff : cutOff = r.diagnostics.filter fun d => !decide (largest ≤ d.days) := by
    refine List.filter_congr ?_
    intro d _
    simp only [← decide_not, not_le]
  have hadds := Summary.adds_filter (fun d => decide (largest ≤ d.days)) r.diagnostics
  rw [hleft, hconsistent]
  refine ⟨hadds.atMost, ?_⟩
  rw [hadds.totalDays, ← hcutOff, (Summary.describes_ofDiagnostics cutOff).totalDays]
  rfl

/-- The diagnostics for 23 days in one file and ten in another. -/
def unevenDiagnostics : List Diagnostic :=
  [{ ruleId := "ManualDebt20Days", days := 20, location := ⟨⟨"a.cs"⟩, 1, 2, 0, 0⟩ },
    { ruleId := "ManualDebt3Days", days := 3, location := ⟨⟨"a.cs"⟩, 1, 2, 0, 0⟩ },
    { ruleId := "ManualDebt10Days", days := 10, location := ⟨⟨"b.cs"⟩, 4, 2, 0, 0⟩ }]

/-- A report with these diagnostics and an error. -/
def unevenReport : Report where
  diagnostics := unevenDiagnostics
  summary := Summary.ofDiagnostics unevenDiagnostics
  filesAnalyzed := 5
  annotationsMatched := 2
  errors := [⟨⟨"c.cs"⟩, "not text"⟩]
  durationMs := 7

/-- Cuts at three, ten and two days leave what a cut at ten leaves, and three days less. -/
theorem unevenReport_cut_at_ten :
    unevenReport.Consistent ∧
    [3, 10, 2].foldl retainMinDays unevenReport = unevenReport.retainMinDays 10 ∧
    ([3, 10, 2].foldl retainMinDays unevenReport).diagnostics.map (·.days) = [20, 10] ∧
    ([3, 10, 2].foldl retainMinDays unevenReport).errors = [⟨⟨"c.cs"⟩, "not text"⟩] ∧
    unevenReport.summary.totalDays =
      ([3, 10, 2].foldl retainMinDays unevenReport).summary.totalDays + 3 := by
  have hmax : [10, 3, 2].max? = some 10 := by decide
  obtain ⟨hcut, hleft, hsummary⟩ :=
    retained_by_largest_threshold unevenReport hmax (List.Perm.swap 10 3 [2])
  refine ⟨rfl, hcut, ?_, ?_, (hsummary rfl).2⟩
  · rw [hleft]
    decide
  · rw [hleft]
    rfl

end Report

end DeclaredDebt
