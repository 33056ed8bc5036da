import DeclaredDebt.Proofs.Order
import DeclaredDebt.Proofs.Registry

/-!
# Every usage is accounted for

The usages of a file are analysed one by one, each as often as the check is registered, and report
to one sink. What comes out is described here without the sink: a usage that declares debt
contributes the diagnostics of its tiers, a usage that fails contributes one error, and nothing
else contributes anything. The numbers of a report follow from that by counting.

## Main definitions

* `Usage.found?`, `Usage.fault?`: the debt of a usage, and why it has none to report.
* `Debt.diagnostics`: the diagnostics for a declared debt.
* `repeated n l`: a list with every entry in it `n` times in a row.
-/

namespace DeclaredDebt

namespace Usage

/-- The debt that a usage declares, if it can be read. -/
def found? (u : Usage) : Option Debt :=
  match u.debt? with
  | .ok debt? => debt?
  | .error _ => none

/-- Why a usage cannot be analysed. -/
def fault? (u : Usage) : Option DebtError :=
  match u.debt? with
  | .ok _ => none
  | .error e => some e

theorem fault?_eq_some_iff {u : Usage} {e : DebtError} :
    u.fault? = some e ↔ u.debt? = .error e := by
  unfold fault?
  cases u.debt? <;> simp

/-- What can come of a usage: nothing, a debt at its place, or a number that is too large. -/
theorem debt?_cases (u : Usage) :
    u.debt? = .ok none ∨
    (∃ name days, u.remediationDays = .ok days ∧
      u.debt? = .ok (some ⟨name, u.displayName, u.location, days⟩)) ∨
    ∃ literal, u.debt? = .error (.overflow literal u.location) := by
  unfold debt?
  split
  · exact .inl rfl
  · next name _ =>
    split
    · cases hdays : u.remediationDays with
      | ok days => exact .inr (.inl ⟨name, days, rfl, rfl⟩)
      | error e =>
        unfold remediationDays at hdays
        split at hdays
        · cases hdays
        · next literal _ =>
          split at hdays
          · cases hdays
          · cases hdays
          · cases hdays
            exact .inr (.inr ⟨literal, rfl⟩)
    · exact .inl rfl

/-- A usage fails only because the number in it is too large. -/
theorem eq_overflow_of_debt? {u : Usage} {e : DebtError} (h : u.debt? = .error e) :
    ∃ literal, e = .overflow literal u.location := by
  obtain hnone | ⟨name, days, -, hsome⟩ | ⟨literal, hover⟩ := u.debt?_cases
  · cases hnone.symm.trans h
  · cases hsome.symm.trans h
  · cases hover.symm.trans h
    exact ⟨literal, rfl⟩

/-- A debt stands where it was declared. -/
theorem location_of_found? {u : Usage} {d : Debt} (h : u.found? = some d) :
    d.location = u.location := by
  unfold found? at h
  obtain hnone | ⟨name, days, -, hsome⟩ | ⟨literal, hover⟩ := u.debt?_cases
  · simp [hnone] at h
  · simp only [hsome, Option.some.injEq] at h
    rw [← h]
  · simp [hover] at h

theorem found?_eq_none_of_fault? {u : Usage} {e : DebtError} (h : u.fault? = some e) :
    u.found? = none := by
  unfold fault? at h
  unfold found?
  cases hdebt : u.debt? with
  | ok debt? => simp [hdebt] at h
  | error e' => rfl

/-- Leaving out the usages that fail leaves out no debt. -/
theorem filterMap_found?_filter (usages : List Usage) :
    (usages.filter (·.fault?.isNone)).filterMap found? = usages.filterMap found? := by
  induction usages with
  | nil => rfl
  | cons u usages ih =>
    cases hfault : u.fault? with
    | none => simp [hfault, List.filterMap_cons, ih]
    | some e => simp [hfault, found?_eq_none_of_fault? hfault, ih]

theorem filterMap_fault?_filter (usages : List Usage) :
    (usages.filter (·.fault?.isNone)).filterMap fault? = [] := by
  rw [List.filterMap_eq_nil_iff]
  intro u hu
  simpa using (List.mem_filter.1 hu).2

end Usage

/-- The diagnostics for a declared debt: one for each tier of its day count, in their order. -/
def Debt.diagnostics (severity? : Option Severity) (d : Debt) : List Diagnostic :=
  (costTiers d.days).map fun cost => Diagnostic.ofBucket severity? d.location d.displayName ⟨cost⟩

/-- A list with every entry in it so many times in a row. -/
def repeated {α : Type} (n : ℕ) (l : List α) : List α := l.flatMap (List.replicate n)

/-! ## Repetition -/

section Repeated

variable {α β : Type} (n : ℕ)

@[simp] theorem repeated_nil : repeated n ([] : List α) = [] := rfl

@[simp] theorem repeated_cons (x : α) (l : List α) :
    repeated n (x :: l) = List.replicate n x ++ repeated n l := rfl

@[simp] theorem repeated_one (l : List α) : repeated 1 l = l := by
  induction l with
  | nil => rfl
  | cons x l ih => rw [repeated_cons, ih, List.replicate_one, List.singleton_append]

/-- Entries are kept or dropped before they are repeated. -/
theorem filterMap_repeated (f : α → Option β) (l : List α) :
    (repeated n l).filterMap f = repeated n (l.filterMap f) := by
  induction l with
  | nil => rfl
  | cons x l ih =>
    rw [repeated_cons, List.filterMap_append, ih]
    cases hx : f x with
    | none => simp [hx]
    | some y => simp [hx]

theorem sum_map_repeated (f : α → ℕ) (l : List α) :
    ((repeated n l).map f).sum = n * (l.map f).sum := by
  induction l with
  | nil => simp
  | cons x l ih =>
    rw [repeated_cons, List.map_append, List.sum_append, ih, List.map_replicate,
      List.sum_replicate, List.map_cons, List.sum_cons, Nat.mul_add, smul_eq_mul]

theorem length_repeated (l : List α) : (repeated n l).length = n * l.length := by
  have h := sum_map_repeated n (fun _ => 1) l
  simpa using h

end Repeated

/-! ## The contribution of usages -/

/-- The finding on a usage has what the usage declares, with all buckets of it. -/
theorem examine_eq (u : Usage) :
    examine u = u.debt?.map fun debt? =>
      ⟨debt?, (debt?.map fun debt => (costTiers debt.days).map Bucket.mk).getD []⟩ := by
  unfold examine
  cases u.debt? with
  | error e => rfl
  | ok debt? =>
    cases debt? with
    | none => rfl
    | some debt => simp only [bucketsFor_eq, Except.map, Option.map_some, Option.getD_some]

namespace Sink

/-- Reports come in behind what was reported before, in their order. -/
theorem foldl_report (debt : Debt) (buckets : List Bucket) (sink : Sink) :
    buckets.foldl (·.report debt) sink =
      { sink with
        reports := sink.reports ++
          buckets.map (Diagnostic.ofBucket sink.severity? debt.location debt.displayName) } := by
  induction buckets generalizing sink with
  | nil => simp
  | cons bucket buckets ih => simp [ih, report]

/-- A usage reports the diagnostics of its debt, if it declares one, and nothing else. -/
theorem analyze_eq (sink : Sink) (u : Usage) :
    sink.analyze u =
      (u.debt?,
        { sink with
          reports := sink.reports ++
            u.found?.toList.flatMap (Debt.diagnostics sink.severity?) }) := by
  unfold analyze Usage.found?
  rw [examine_eq]
  cases u.debt? with
  | error e => simp [Except.map]
  | ok debt? =>
    cases debt? with
    | none => simp [Except.map]
    | some debt =>
      simp [Except.map, foldl_report, Debt.diagnostics, Function.comp_def]

end Sink

namespace Visit

/-- What one more usage adds to a visit. -/
theorem next_eq (file : Path) (v : Visit) (u : Usage) :
    v.next file u =
      { sink := (v.sink.analyze u).2
        matched := v.matched + u.found?.toList.length
        errors := v.errors ++ u.fault?.toList.map fun e => ⟨file, e.message⟩ } := by
  unfold next
  rw [Sink.analyze_eq]
  unfold Usage.fault? Usage.found?
  cases u.debt? with
  | error e => simp
  | ok debt? => cases debt? <;> simp

/-- The invariant of a visit: it holds what it started with, and then exactly what the usages seen
so far contribute. -/
theorem foldl_next (file : Path) (usages : List Usage) (v : Visit) :
    usages.foldl (next file) v =
      { sink :=
          { v.sink with
            reports := v.sink.reports ++
              (usages.filterMap Usage.found?).flatMap (Debt.diagnostics v.sink.severity?) }
        matched := v.matched + (usages.filterMap Usage.found?).length
        errors := v.errors ++
          (usages.filterMap Usage.fault?).map fun e => ⟨file, e.message⟩ } := by
  induction usages generalizing v with
  | nil => simp
  | cons u usages ih =>
    rw [List.foldl_cons, ih, next_eq, Sink.analyze_eq]
    cases hfound : u.found? <;> cases hfault : u.fault? <;>
      simp [hfound, hfault, Nat.add_assoc, Nat.add_comm 1]

end Visit

/-- What usages contribute, each once: their diagnostics, the number of those that declare debt, and
an error for each that fails. -/
def Outcome.ofUsages (severity? : Option Severity) (file : Path) (usages : List Usage) :
    Outcome where
  diagnostics := (usages.filterMap Usage.found?).flatMap (Debt.diagnostics severity?)
  matched := (usages.filterMap Usage.found?).length
  errors := (usages.filterMap Usage.fault?).map fun e => ⟨file, e.message⟩

namespace Analysis

/-- **The outcome of a file** is the contribution of its usages, each repeated once for every
registration of the check. -/
theorem outcome_eq (a : Analysis) (file : Path) (usages : List Usage) :
    a.outcome file usages =
      Outcome.ofUsages a.severity? file (repeated a.registrations usages) := by
  unfold outcome
  rw [Visit.foldl_next]
  simp [Visit.outcome, Outcome.ofUsages, repeated]

theorem diagnostics_outcome (a : Analysis) (file : Path) (usages : List Usage) :
    (a.outcome file usages).diagnostics =
      (repeated a.registrations (usages.filterMap Usage.found?)).flatMap
        (Debt.diagnostics a.severity?) := by
  rw [outcome_eq, Outcome.ofUsages, filterMap_repeated]

theorem matched_outcome (a : Analysis) (file : Path) (usages : List Usage) :
    (a.outcome file usages).matched =
      a.registrations * (usages.filterMap Usage.found?).length := by
  rw [outcome_eq, Outcome.ofUsages, filterMap_repeated, length_repeated]

theorem errors_outcome (a : Analysis) (file : Path) (usages : List Usage) :
    (a.outcome file usages).errors =
      (repeated a.registrations (usages.filterMap Usage.fault?)).map
        fun e => ⟨file, e.message⟩ := by
  simp only [outcome_eq, Outcome.ofUsages, filterMap_repeated]

/-- Without the usages that fail, a file contributes the same but for its errors. -/
theorem outcome_filter_fault? (a : Analysis) (file : Path) (usages : List Usage) :
    a.outcome file (usages.filter (·.fault?.isNone)) =
      { a.outcome file usages with errors := [] } := by
  simp only [outcome_eq, Outcome.ofUsages, filterMap_repeated, Usage.filterMap_found?_filter,
    Usage.filterMap_fault?_filter, repeated_nil, List.map_nil]

end Analysis

/-! ## The numbers of a report -/

namespace Debt

theorem sum_days_diagnostics (severity? : Option Severity) (d : Debt) :
    ((d.diagnostics severity?).map (·.days)).sum = reportedDays d.days := by
  have hdays : (d.diagnostics severity?).map (·.days) = costTiers d.days := by
    simp [diagnostics, Function.comp_def, Diagnostic.ofBucket]
  rw [hdays, sum_costTiers]

/-- The diagnostics for some debts add up to what is reported of each. -/
theorem sum_days_flatMap_diagnostics (severity? : Option Severity) (debts : List Debt) :
    ((debts.flatMap (Debt.diagnostics severity?)).map (·.days)).sum =
      (debts.map fun d => reportedDays d.days).sum := by
  rw [List.map_flatMap, List.flatMap_def, List.sum_flatten, List.map_map]
  simp only [Function.comp_def, sum_days_diagnostics]

theorem length_diagnostics (severity? : Option Severity) (d : Debt) :
    (d.diagnostics severity?).length = nonzeroDigits (reportedDays d.days) := by
  rw [diagnostics, List.length_map, length_costTiers]

end Debt

/-- The declared days of a summary do not depend on the order of the diagnostics. -/
theorem Summary.totalDays_eq {diagnostics : List Diagnostic} {l : List Diagnostic}
    (h : diagnostics.Perm l) :
    (Summary.ofDiagnostics diagnostics).totalDays = (l.map (·.days)).sum := by
  rw [Summary.ofDiagnostics, ← List.sum_eq_foldr]
  exact (h.map _).sum_eq

namespace Analysis

theorem diagnostics_ofUsages (a : Analysis) (durationMs : ℕ) (file : Path)
    (usages : List Usage) :
    (a.ofUsages durationMs file usages).diagnostics.Perm
      ((repeated a.registrations (usages.filterMap Usage.found?)).flatMap
        (Debt.diagnostics a.severity?)) := by
  rw [← diagnostics_outcome a file]
  simpa [ofUsages, Report.ofOutcomes] using
    List.mergeSort_perm (a.outcome file usages).diagnostics Diagnostic.notAfter

/-- The errors of one file are in order already, so sorting leaves them as they came. -/
theorem errors_ofUsages (a : Analysis) (durationMs : ℕ) (file : Path) (usages : List Usage) :
    (a.ofUsages durationMs file usages).errors =
      (repeated a.registrations (usages.filterMap Usage.fault?)).map
        fun e => ⟨file, e.message⟩ := by
  rw [← errors_outcome]
  have hsorted : (a.outcome file usages).errors.Pairwise
      (fun x y => x.file.le y.file = true) := by
    rw [errors_outcome, List.pairwise_map]
    exact List.pairwise_of_forall fun _ _ => (Path.le_iff file file).2 le_rfl
  simpa [ofUsages, Report.ofOutcomes] using List.mergeSort_of_pairwise hsorted

/-- **Every usage of a file is accounted for.** With the check registered so many times, each usage
that declares debt adds its reported days, a diagnostic for each digit of them that is not zero, and
one match, for every registration; each usage that fails adds one error for every registration.
The failing usages change nothing in what is reported of the others. -/
theorem report_accounts_for_usages (a : Analysis) (durationMs : ℕ) (file : Path)
    (usages : List Usage) :
    let r := a.ofUsages durationMs file usages
    let found := usages.filterMap Usage.found?
    let faults := usages.filterMap Usage.fault?
    let others := a.ofUsages durationMs file (usages.filter (·.fault?.isNone))
    r.summary.totalDays = a.registrations * (found.map fun d => min d.days 99).sum ∧
    r.summary.total = r.diagnostics.length ∧
    r.diagnostics.length =
      a.registrations * (found.map fun d => nonzeroDigits (min d.days 99)).sum ∧
    r.annotationsMatched = a.registrations * found.length ∧
    r.errors.length = a.registrations * faults.length ∧
    r.diagnostics.Perm
      ((repeated a.registrations found).flatMap (Debt.diagnostics a.severity?)) ∧
    r.errors = (repeated a.registrations faults).map (fun e => ⟨file, e.message⟩) ∧
    r.diagnostics = others.diagnostics ∧ r.summary = others.summary ∧
    r.annotationsMatched = others.annotationsMatched ∧ others.errors = [] := by
  intro r found faults others
  have hperm := a.diagnostics_ofUsages durationMs file usages
  have herrors := a.errors_ofUsages durationMs file usages
  have hothers := a.outcome_filter_fault? file usages
  refine ⟨?_, rfl, ?_, ?_, ?_, hperm, herrors, ?_, ?_, ?_, ?_⟩
  · calc
      r.summary.totalDays
          = (((repeated a.registrations found).flatMap
              (Debt.diagnostics a.severity?)).map (·.days)).sum := Summary.totalDays_eq hperm
      _ = ((repeated a.registrations found).map fun d => reportedDays d.days).sum :=
        Debt.sum_days_flatMap_diagnostics a.severity? _
      _ = a.registrations * (found.map fun d => min d.days 99).sum :=
        sum_map_repeated a.registrations _ found
  · calc
      r.diagnostics.length
          = ((repeated a.registrations found).flatMap
              (Debt.diagnostics a.severity?)).length := hperm.length_eq
      _ = ((repeated a.registrations found).map fun d =>
            nonzeroDigits (reportedDays d.days)).sum := by
        simp only [List.length_flatMap, Debt.length_diagnostics]
      _ = a.registrations * (found.map fun d => nonzeroDigits (min d.days 99)).sum :=
        sum_map_repeated a.registrations _ found
  · simp [r, ofUsages, Report.ofOutcomes, matched_outcome, found]
  · rw [herrors, List.length_map, length_repeated]
  · simp [r, others, ofUsages, Report.ofOutcomes, hothers]
  · simp [r, others, ofUsages, Report.ofOutcomes, hothers]
  · simp [r, others, ofUsages, Report.ofOutcomes, hothers]
  · simp [others, ofUsages, Report.ofOutcomes, hothers]

end Analysis

end DeclaredDebt
