import DeclaredDebt.Debt
import Mathlib

/-!
# What decides the debt of a usage

A usage declares debt by two things only: the name it goes by, and the number in the first of its
arguments that is named for the cost. Its place and the way its name is written are passed on
into the debt, but decide nothing.

## Main definitions

* `Usage.costLiteral?`: the number that holds the cost of a usage.
* `Usage.declared?`: the name and the days that a usage declares.
-/

namespace DeclaredDebt.Usage

/-- The number in the first argument that holds a cost. -/
def costLiteral? (u : Usage) : Option String := u.costArgument?.bind Argument.literal?

/-- The name and the days that a usage declares, if its cost can be read; a usage of another
attribute declares nothing. -/
def declared? (u : Usage) : Option (Option (String × ℕ)) :=
  u.debt?.toOption.map (Option.map fun d => (d.name, d.days))

variable {u v : Usage} {name literal : String} {e : DebtError}

/-! ## The cost -/

/-- The reading of the number is the cost, where what is no integer costs nothing. -/
theorem remediationDays_of_costLiteral? (h : u.costLiteral? = some literal) :
    u.remediationDays =
      match Literal.read literal.toList with
      | .days n => .ok n
      | .notInteger => .ok 0
      | .overflow => .error (.overflow literal u.location) := by
  have hbind : u.costArgument?.bind Argument.literal? = some literal := h
  cases hread : Literal.read literal.toList <;> simp [remediationDays, hbind, hread]

/-- The cost cannot be read only if the number is too large, and the error shows that number. -/
theorem remediationDays_eq_error_iff :
    u.remediationDays = .error e ↔
      ∃ literal, u.costLiteral? = some literal ∧ Literal.read literal.toList = .overflow ∧
        e = .overflow literal u.location := by
  cases hliteral : u.costLiteral? with
  | none =>
    have hzero : u.remediationDays = .ok 0 := by
      unfold remediationDays
      rw [← costLiteral?, hliteral]
    simp [hzero]
  | some literal =>
    rw [remediationDays_of_costLiteral? hliteral]
    cases hread : Literal.read literal.toList <;> simp [hread, eq_comm]

/-- Usages with the same arguments have the same cost. -/
theorem toOption_remediationDays_congr (h : u.arguments = v.arguments) :
    u.remediationDays.toOption = v.remediationDays.toOption := by
  have hliteral : u.costLiteral? = v.costLiteral? := by
    unfold costLiteral? costArgument?
    rw [h]
  cases hu : u.costLiteral? with
  | none =>
    unfold remediationDays
    rw [← costLiteral?, ← costLiteral?, ← hliteral, hu]
  | some literal =>
    rw [remediationDays_of_costLiteral? hu, remediationDays_of_costLiteral? (hliteral ▸ hu)]
    cases Literal.read literal.toList <;> rfl

/-! ## The debt -/

/-- A usage that goes by one of the names declares its cost. -/
theorem debt?_of_isTargetName (hname : u.resolvedName = .ok name)
    (htarget : isTargetName name = true) :
    u.debt? = u.remediationDays.map fun days => some ⟨name, u.displayName, u.location, days⟩ := by
  simp [debt?, hname, htarget]

theorem debt?_of_isTargetName_eq_false (hname : u.resolvedName = .ok name)
    (htarget : isTargetName name = false) : u.debt? = .ok none := by
  simp [debt?, hname, htarget]

/-- What is declared depends on the name that a usage goes by and on its arguments only. -/
theorem declared?_congr (hu : u.resolvedName = .ok name) (hv : v.resolvedName = .ok name)
    (harguments : u.arguments = v.arguments) : u.declared? = v.declared? := by
  have hdays := toOption_remediationDays_congr harguments
  unfold declared?
  cases htarget : isTargetName name with
  | false =>
    rw [debt?_of_isTargetName_eq_false hu htarget, debt?_of_isTargetName_eq_false hv htarget]
  | true =>
    rw [debt?_of_isTargetName hu htarget, debt?_of_isTargetName hv htarget]
    cases hcost : u.remediationDays <;> cases hcost' : v.remediationDays <;>
      simp_all [Except.map, Except.toOption]

end DeclaredDebt.Usage
