import DeclaredDebt.Proofs.Accounting
import DeclaredDebt.Proofs.UsageDebt

/-!
# A usage reports all of its debt or nothing

Analysing a usage can fail in the types for three reasons, but only one of them ever happens: a
number that is too large. A usage without a name is passed over, and every bucket that a day count
asks for is registered, so no analysis stops between two reports of one debt. What was reported
before is kept in every case.

## Main definitions

* `ReportsTier severity? debt cost d`: a diagnostic that reports one tier of a debt.
-/

namespace DeclaredDebt

/-- A diagnostic reports one tier of a debt: it is that of the registered bucket for the tier, and
has its identifier and cost and the place and the written name of the debt. -/
def ReportsTier (severity? : Option Severity) (debt : Debt) (cost : ℕ) (d : Diagnostic) : Prop :=
  ∃ b ∈ Bucket.registry, Bucket.ofCost cost = .ok b ∧ b.days = cost ∧
    d = Diagnostic.ofBucket severity? debt.location debt.displayName b ∧
    d.ruleId = b.identifier ∧ d.days = b.days ∧
    d.location = debt.location ∧ d.displayName = debt.displayName

/-! ## Errors and debts of usages -/

/-- A usage fails only with the number in its own cost argument, at its own place. -/
theorem Usage.exists_costLiteral?_of_debt? {u : Usage} {e : DebtError} (h : u.debt? = .error e) :
    ∃ literal, u.costLiteral? = some literal ∧ Literal.read literal.toList = .overflow ∧
      e = .overflow literal u.location := by
  cases hname : u.resolvedName with
  | error e' => simp [debt?, hname] at h
  | ok name =>
    cases htarget : isTargetName name with
    | false => simp [debt?_of_isTargetName_eq_false hname htarget] at h
    | true =>
      rw [debt?_of_isTargetName hname htarget] at h
      cases hdays : u.remediationDays with
      | ok days => simp [hdays, Except.map] at h
      | error e' =>
        rw [hdays] at h
        cases h
        exact remediationDays_eq_error_iff.1 hdays

/-- The debt of a usage has the place and the written name of the usage. -/
theorem Usage.of_debt?_eq_some {u : Usage} {found : Debt} (h : u.debt? = .ok (some found)) :
    found.location = u.location ∧ found.displayName = u.displayName := by
  obtain hnone | ⟨name, days, -, hsome⟩ | ⟨literal, hover⟩ := u.debt?_cases
  · cases hnone.symm.trans h
  · cases hsome.symm.trans h
    exact ⟨rfl, rfl⟩
  · cases hover.symm.trans h

/-! ## Reports -/

/-- **Every tier of a debt is reported**, by the bucket that is registered for it. -/
theorem Debt.reportsTier_diagnostics (severity? : Option Severity) (debt : Debt) :
    List.Forall₂ (ReportsTier severity? debt) (costTiers debt.days)
      (debt.diagnostics severity?) := by
  unfold diagnostics
  rw [List.forall₂_map_right_iff, List.forall₂_same]
  intro cost hcost
  have hregistered := mem_registeredCosts_of_mem_costTiers hcost
  have hlookup : Bucket.ofCost cost = .ok ⟨cost⟩ := by
    rw [Bucket.ofCost_eq, if_pos hregistered]
  exact ⟨⟨cost⟩, List.mem_map_of_mem hregistered, hlookup, rfl, rfl, rfl, rfl, rfl, rfl⟩

/-- **Analysing a usage is all or nothing**, whatever was reported before it. If it fails, the
usage's own number is too large, the sink is left as it was, and nothing but that error is added to
the visit. If it finds no debt, nothing changes. If it finds a debt, the reports of its tiers
come in behind what the sink had, in their order, and one more usage is counted. -/
theorem analyze_all_or_nothing (file : Path) (before : Visit) (u : Usage) :
    let after := before.next file u
    match before.sink.analyze u with
    | (.error e, sink) =>
      u.debt? = .error e ∧
      (∃ literal, u.costLiteral? = some literal ∧ Literal.read literal.toList = .overflow ∧
        e = .overflow literal u.location) ∧
      sink = before.sink ∧
      after = { before with errors := before.errors ++ [⟨file, e.message⟩] }
    | (.ok none, sink) => u.debt? = .ok none ∧ sink = before.sink ∧ after = before
    | (.ok (some found), sink) =>
      u.debt? = .ok (some found) ∧
      found.location = u.location ∧ found.displayName = u.displayName ∧
      ∃ reports,
        List.Forall₂ (ReportsTier before.sink.severity? found) (costTiers found.days) reports ∧
        sink = { before.sink with reports := before.sink.reports ++ reports } ∧
        after = { before with sink, matched := before.matched + 1 } := by
  intro after
  have hafter : after = _ := Visit.next_eq file before u
  rw [Sink.analyze_eq] at hafter ⊢
  cases hdebt : u.debt? with
  | error e =>
    have hfound : u.found? = none := by rw [Usage.found?, hdebt]
    have hfault : u.fault? = some e := by rw [Usage.fault?, hdebt]
    rw [hfound, hfault] at hafter
    exact ⟨rfl, Usage.exists_costLiteral?_of_debt? hdebt, by simp [hfound], by simp [hafter]⟩
  | ok debt? =>
    have hfound : u.found? = debt? := by rw [Usage.found?, hdebt]
    have hfault : u.fault? = none := by rw [Usage.fault?, hdebt]
    rw [hfound, hfault] at hafter
    cases debt? with
    | none => exact ⟨rfl, by simp [hfound], by simp [hafter]⟩
    | some found =>
      obtain ⟨hlocation, hname⟩ := Usage.of_debt?_eq_some hdebt
      exact ⟨rfl, hlocation, hname, found.diagnostics before.sink.severity?,
        found.reportsTier_diagnostics before.sink.severity?, by simp [hfound],
        by simp [hafter, hfound]⟩

end DeclaredDebt
