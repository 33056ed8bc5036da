import DeclaredDebt.Proofs.Registry

/-!
# A day count is split in one way only

The costs of a day count are a multiple of ten and a number below ten, either of which may be
missing. Tens and ones of a sum can be read off again, so among all lists of registered costs that
are built like this there is one for each sum from 0 to 99, and it is the one that is reported.
Different counts up to 99 therefore have different buckets, and all counts from there on have those
of 99.

## Main definitions

* `TensThenOnes costs`: at most one registered multiple of ten, then at most one cost below ten.
* `reportedTotal days`: what the buckets of a day count add up to.
-/

namespace DeclaredDebt

/-- At most one registered multiple of ten, and behind it at most one registered cost below ten. -/
def TensThenOnes (costs : List ℕ) : Prop :=
  ∃ tens? ones? : Option ℕ, costs = tens?.toList ++ ones?.toList ∧
    (∀ c ∈ tens?, c ∈ Bucket.registeredCosts ∧ c % 10 = 0) ∧
    (∀ c ∈ ones?, c ∈ Bucket.registeredCosts ∧ c < 10)

/-- What the buckets of a day count add up to. -/
def reportedTotal (days : ℕ) : ℕ :=
  match bucketsFor days with
  | .ok buckets => (buckets.map Bucket.days).sum
  | .error _ => 0

/-! ## Tens and ones -/

/-- The tens and the ones of a sum, without those that are zero. -/
def tensAndOnes (sum : ℕ) : List ℕ := [sum / 10 * 10, sum % 10].filter (0 < ·)

/-- The tiers of a day count are the tens and ones of what is reported of it. -/
theorem costTiers_eq (days : ℕ) : costTiers days = tensAndOnes (reportedDays days) := by
  unfold costTiers clampThreshold reportedDays
  split
  · next hlarge =>
    rw [Nat.min_eq_right (by omega)]
    rfl
  · next hsmall =>
    rw [Nat.min_eq_left (by omega)]
    rfl

/-- A list of tens and ones can be read off its sum. -/
theorem TensThenOnes.eq_tensAndOnes {costs : List ℕ} (h : TensThenOnes costs) :
    costs = tensAndOnes costs.sum := by
  obtain ⟨tens?, ones?, rfl, htens, hones⟩ := h
  -- what a part adds to the sum tells whether it is there, since no registered cost is zero
  have htens' : ∀ c ∈ tens?, 0 < c ∧ c % 10 = 0 := by
    intro c hc
    exact ⟨(Bucket.mem_registeredCosts.1 (htens c hc).1).1, (htens c hc).2⟩
  have hones' : ∀ c ∈ ones?, 0 < c ∧ c < 10 := by
    intro c hc
    exact ⟨(Bucket.mem_registeredCosts.1 (hones c hc).1).1, (hones c hc).2⟩
  have hread : ∀ t o : ℕ, t % 10 = 0 → o < 10 →
      tensAndOnes (t + o) = [t, o].filter (0 < ·) := by
    intro t o ht ho
    have hdiv : (t + o) / 10 * 10 = t := by omega
    have hmod : (t + o) % 10 = o := by omega
    rw [tensAndOnes, hdiv, hmod]
  cases tens? with
  | none =>
    cases ones? with
    | none => rfl
    | some o =>
      obtain ⟨hpos, hlt⟩ := hones' o rfl
      have h := hread 0 o rfl hlt
      simpa [hpos] using h.symm
  | some t =>
    obtain ⟨htpos, hmod⟩ := htens' t rfl
    cases ones? with
    | none =>
      have h := hread t 0 hmod (by decide)
      simpa [htpos] using h.symm
    | some o =>
      obtain ⟨hpos, hlt⟩ := hones' o rfl
      have h := hread t o hmod hlt
      simpa [htpos, hpos] using h.symm

/-- The tens and ones of a number below 100 are such a list. -/
theorem tensThenOnes_tensAndOnes {sum : ℕ} (h : sum < 100) : TensThenOnes (tensAndOnes sum) := by
  refine ⟨Option.guard (0 < ·) (sum / 10 * 10), Option.guard (0 < ·) (sum % 10), ?_, ?_, ?_⟩
  · by_cases htens : 0 < sum / 10 * 10 <;> by_cases hones : 0 < sum % 10 <;>
      simp [tensAndOnes, Option.guard, htens, hones]
  · intro c hc
    obtain ⟨rfl, hpos⟩ := Option.guard_eq_some_iff.1 hc
    rw [Bucket.mem_registeredCosts]
    simp only [decide_eq_true_eq] at hpos
    omega
  · intro c hc
    obtain ⟨rfl, hpos⟩ := Option.guard_eq_some_iff.1 hc
    rw [Bucket.mem_registeredCosts]
    simp only [decide_eq_true_eq] at hpos
    omega

theorem reportedDays_lt (days : ℕ) : reportedDays days < 100 := by
  unfold reportedDays
  omega

/-- Of all lists of tens and ones, the tiers of a day count are the one with its reported sum. -/
theorem tensThenOnes_iff (days : ℕ) (costs : List ℕ) :
    TensThenOnes costs ∧ costs.sum = reportedDays days ↔ costs = costTiers days := by
  constructor
  · rintro ⟨hshape, hsum⟩
    rw [costTiers_eq, ← hsum]
    exact hshape.eq_tensAndOnes
  · rintro rfl
    refine ⟨?_, sum_costTiers days⟩
    rw [costTiers_eq]
    exact tensThenOnes_tensAndOnes (reportedDays_lt days)

/-! ## Buckets -/

theorem map_days_mk (costs : List ℕ) : (costs.map Bucket.mk).map Bucket.days = costs := by
  simp [Function.comp_def]

theorem reportedTotal_eq (days : ℕ) : reportedTotal days = reportedDays days := by
  unfold reportedTotal
  rw [bucketsFor_eq]
  simp only [map_days_mk, sum_costTiers]

/-- Day counts have the same buckets exactly if the same is reported of them. -/
theorem bucketsFor_eq_iff (m n : ℕ) :
    bucketsFor m = bucketsFor n ↔ reportedDays m = reportedDays n := by
  constructor
  · intro h
    rw [← reportedTotal_eq, ← reportedTotal_eq, reportedTotal, reportedTotal, h]
  · intro h
    rw [bucketsFor_eq, bucketsFor_eq, costTiers_eq, costTiers_eq, h]

/-- **Every day count is split into registered buckets, and in one way only.** The lookup succeeds
with the buckets of its tiers; the tiers are the only list of tens and ones that adds up to the
count, as far as 99 days go; counts up to 99 have buckets of their own and all from there on have
those of 99; and a larger count never has a smaller total. -/
theorem bucketsFor_splits_uniquely :
    (∀ days, ∃ buckets, bucketsFor days = .ok buckets ∧ buckets ⊆ Bucket.registry ∧
      buckets.map Bucket.days = costTiers days) ∧
    (∀ days costs, TensThenOnes costs ∧ costs.sum = min days 99 ↔ costs = costTiers days) ∧
    Set.InjOn bucketsFor (Set.Icc 0 99) ∧
    (∀ more, bucketsFor (99 + more) = bucketsFor 99) ∧
    Monotone reportedTotal ∧ ∀ days, reportedTotal days = min days 99 := by
  refine ⟨?_, tensThenOnes_iff, ?_, ?_, ?_, reportedTotal_eq⟩
  · intro days
    refine ⟨_, bucketsFor_eq days, ?_, map_days_mk _⟩
    intro b hb
    obtain ⟨cost, hcost, rfl⟩ := List.mem_map.1 hb
    exact List.mem_map_of_mem (mem_registeredCosts_of_mem_costTiers hcost)
  · intro m hm n hn h
    have hsame := (bucketsFor_eq_iff m n).1 h
    simp only [reportedDays, Set.mem_Icc] at hsame hm hn
    omega
  · intro more
    rw [bucketsFor_eq_iff, reportedDays, reportedDays]
    omega
  · intro m n hle
    rw [reportedTotal_eq, reportedTotal_eq]
    exact min_le_min_right 99 hle

end DeclaredDebt
