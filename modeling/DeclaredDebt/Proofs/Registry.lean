import DeclaredDebt.Tiers
import Mathlib

/-!
# The registry serves every day count

A bucket is looked up by a text, so a cost finds its own bucket only because no two costs share an
identifier. From that, a lookup succeeds exactly for what is registered, every part of a day count
has a bucket, the lookup of a day count cannot fail, and the costs of its buckets add up to the day
count as far as it can be expressed.

## Main definitions

* `reportedDays days`: what the buckets of a day count add up to.
* `nonzeroDigits n`: how many decimal digits of a number are not zero.
-/

namespace DeclaredDebt

/-- What is reported of a day count: all of it below 100 days, and 99 days from there on. -/
def reportedDays (days : ℕ) : ℕ := min days 99

/-- The number of decimal digits that are not zero. -/
def nonzeroDigits (n : ℕ) : ℕ := (Nat.digits 10 n).countP (· ≠ 0)

namespace Bucket

/-! ## Identifiers -/

theorem toString_injective {m n : ℕ} (h : toString m = toString n) : m = n := by
  simp only [Nat.toString_eq_repr] at h
  have hdigits : Nat.toDigits 10 m = Nat.toDigits 10 n := by
    rw [← Nat.toList_repr, ← Nat.toList_repr, h]
  rw [← Nat.ofDigitChars_ten_toDigits (n := m), hdigits, Nat.ofDigitChars_ten_toDigits]

/-- The identifier for one day ends with another letter than those for other counts. -/
theorem identifierFor_one_ne (n : ℕ) :
    "ManualDebt1Day" ≠ "ManualDebt" ++ toString n ++ "Days" := by
  intro h
  have hlast : ("ManualDebt" ++ toString n ++ "Days").toList.getLast? = some 's' := by
    rw [String.toList_append, List.getLast?_append]
    rfl
  rw [← h] at hlast
  exact absurd hlast (by decide)

/-- **No two costs share an identifier**, whether or not they have a bucket. -/
theorem identifierFor_injective {m n : ℕ} (h : identifierFor m = identifierFor n) : m = n := by
  unfold identifierFor at h
  by_cases hm : m = 1
  · by_cases hn : n = 1
    · rw [hm, hn]
    · simp only [hm, hn, if_true, if_false] at h
      exact absurd h (identifierFor_one_ne n)
  · by_cases hn : n = 1
    · simp only [hm, hn, if_true, if_false] at h
      exact absurd h.symm (identifierFor_one_ne m)
    · simp only [hm, hn, if_false] at h
      exact toString_injective ((String.append_right_inj _).1 ((String.append_left_inj _).1 h))

/-! ## Lookup -/

/-- A cost that is registered finds its own bucket, and no other cost finds one. -/
theorem ofCost_eq (days : ℕ) :
    ofCost days =
      if days ∈ registeredCosts then .ok ⟨days⟩ else .error ⟨identifierFor days⟩ := by
  have hsame : (fun b : Bucket => b.identifier == identifierFor days) =
      fun b => b.days == days := by
    funext b
    rw [Bool.eq_iff_iff, beq_iff_eq, beq_iff_eq]
    exact ⟨identifierFor_injective, fun h => h ▸ rfl⟩
  unfold ofCost ofIdentifier
  rw [hsame, registry, List.find?_map]
  cases hfind : registeredCosts.find? ((fun b : Bucket => b.days == days) ∘ Bucket.mk) with
  | none =>
    have hnot : days ∉ registeredCosts := by
      intro hmem
      have := List.find?_eq_none.1 hfind days hmem
      simp at this
    simp [hnot]
  | some cost =>
    have hcost : cost = days := by simpa using List.find?_some hfind
    have hmem : days ∈ registeredCosts := hcost ▸ List.mem_of_find?_eq_some hfind
    simp [hcost, hmem]

/-- Every number from one to nine and every multiple of ten up to 90 is registered. -/
theorem mem_registeredCosts {cost : ℕ} :
    cost ∈ registeredCosts ↔ 0 < cost ∧ (cost < 10 ∨ cost < 100 ∧ cost % 10 = 0) := by
  simp only [registeredCosts, List.mem_append, List.mem_range']
  constructor
  · rintro (⟨i, hi, rfl⟩ | ⟨i, hi, rfl⟩) <;> omega
  · rintro ⟨hpos, hlt | ⟨hlt, hmod⟩⟩
    · exact .inl ⟨cost - 1, by omega, by omega⟩
    · exact .inr ⟨cost / 10 - 1, by omega, by omega⟩

/-- A text finds the bucket that goes by it, of which there is at most one. -/
theorem ofIdentifier_eq_ok_iff {text : String} {b : Bucket} :
    ofIdentifier text = .ok b ↔ b ∈ registry ∧ b.identifier = text := by
  unfold ofIdentifier
  cases hfind : registry.find? fun b => b.identifier == text with
  | none =>
    have hnone := List.find?_eq_none.1 hfind
    refine iff_of_false (by simp) ?_
    rintro ⟨hmem, hid⟩
    exact hnone b hmem (beq_iff_eq.2 hid)
  | some found =>
    have hmem := List.mem_of_find?_eq_some hfind
    have hid : found.identifier = text := by simpa using List.find?_some hfind
    simp only [Except.ok.injEq]
    constructor
    · rintro rfl
      exact ⟨hmem, hid⟩
    · rintro ⟨-, hid'⟩
      have hdays : found.days = b.days := identifierFor_injective (hid.trans hid'.symm)
      cases found
      cases b
      rw [mk.injEq]
      exact hdays

/-- Where a text finds no bucket, the error names the text. -/
theorem ofIdentifier_eq_error_iff {text : String} {e : UnknownBucket} :
    ofIdentifier text = .error e ↔ (∀ b, ofIdentifier text ≠ .ok b) ∧ e = ⟨text⟩ := by
  unfold ofIdentifier
  cases registry.find? fun b => b.identifier == text with
  | none => simp [eq_comm]
  | some b => simp

theorem mem_registry_iff {b : Bucket} : b ∈ registry ↔ b.days ∈ registeredCosts := by
  cases b
  simp [registry]

/-- The identifiers of the buckets are those of the registered costs. -/
theorem exists_identifier_iff {text : String} :
    (∃ b ∈ registry, b.identifier = text) ↔
      ∃ cost ∈ registeredCosts, text = identifierFor cost := by
  constructor
  · rintro ⟨b, hb, rfl⟩
    exact ⟨b.days, mem_registry_iff.1 hb, rfl⟩
  · rintro ⟨cost, hcost, rfl⟩
    exact ⟨⟨cost⟩, mem_registry_iff.2 hcost, rfl⟩

theorem nodup_identifiers : (registry.map identifier).Nodup := by
  have hcosts : registeredCosts.Nodup := by decide
  rw [registry, List.map_map]
  exact hcosts.map fun _ _ h => identifierFor_injective h

/-- **A lookup succeeds exactly for what is registered.** A cost finds a bucket iff it is a
registered cost, and what it finds is the only bucket with that cost; any other cost fails with its
own identifier. A text finds a bucket iff it is the identifier of a registered cost, and the bucket
then goes by that text; any other text fails with itself. The identifiers of all costs differ,
whether they are registered or not, so no two costs find the same bucket. -/
theorem lookup_succeeds_iff_registered :
    (∀ days, (∃ b, ofCost days = .ok b) ↔ days ∈ registeredCosts) ∧
    (∀ days b, ofCost days = .ok b ↔ b ∈ registry ∧ b.days = days) ∧
    (∀ days e, ofCost days = .error e ↔ days ∉ registeredCosts ∧ e = ⟨identifierFor days⟩) ∧
    (∀ text, (∃ b, ofIdentifier text = .ok b) ↔
      ∃ cost ∈ registeredCosts, text = identifierFor cost) ∧
    (∀ text b, ofIdentifier text = .ok b ↔ b ∈ registry ∧ b.identifier = text) ∧
    (∀ text e, ofIdentifier text = .error e ↔
      (¬ ∃ cost ∈ registeredCosts, text = identifierFor cost) ∧ e = ⟨text⟩) ∧
    registry.map days = registeredCosts ∧ (registry.map identifier).Nodup ∧
    Function.Injective identifierFor ∧
    ∀ m n, (∃ b, ofCost m = .ok b ∧ ofCost n = .ok b) ↔ m = n ∧ m ∈ registeredCosts := by
  have hfinds : ∀ text, (∃ b, ofIdentifier text = .ok b) ↔
      ∃ cost ∈ registeredCosts, text = identifierFor cost := by
    intro text
    simp only [ofIdentifier_eq_ok_iff, exists_identifier_iff]
  have hcost : ∀ days b, ofCost days = .ok b ↔ b ∈ registry ∧ b.days = days := by
    intro days b
    rw [ofCost, ofIdentifier_eq_ok_iff]
    exact and_congr_right fun _ => ⟨fun h => identifierFor_injective h, fun h => h ▸ rfl⟩
  refine ⟨?_, hcost, ?_, hfinds, fun text b => ofIdentifier_eq_ok_iff, ?_, ?_, nodup_identifiers,
    fun m n h => identifierFor_injective h, ?_⟩
  · intro days
    rw [ofCost_eq]
    split <;> simp [*]
  · intro days e
    rw [ofCost_eq]
    split <;> simp [*, eq_comm]
  · intro text e
    rw [ofIdentifier_eq_error_iff, ← hfinds, not_exists]
  · simp [registry, Function.comp_def]
  · intro m n
    simp only [hcost]
    constructor
    · rintro ⟨b, ⟨hb, rfl⟩, -, rfl⟩
      exact ⟨rfl, mem_registry_iff.1 hb⟩
    · rintro ⟨rfl, hm⟩
      exact ⟨⟨m⟩, ⟨mem_registry_iff.2 hm, rfl⟩, mem_registry_iff.2 hm, rfl⟩

end Bucket

/-! ## Tiers -/

theorem mem_registeredCosts_of_mem_costTiers {days cost : ℕ} (h : cost ∈ costTiers days) :
    cost ∈ Bucket.registeredCosts := by
  rw [Bucket.mem_registeredCosts]
  unfold costTiers clampThreshold at h
  split at h
  · simp only [List.mem_cons, List.not_mem_nil, or_false] at h
    omega
  · simp only [List.mem_filter, List.mem_cons, List.not_mem_nil, or_false,
      decide_eq_true_eq] at h
    omega

/-- **The lookup of a day count does not fail**, and gives the buckets of its tiers in order. -/
theorem bucketsFor_eq (days : ℕ) : bucketsFor days = .ok ((costTiers days).map Bucket.mk) := by
  have hall : ∀ costs : List ℕ, (∀ cost ∈ costs, cost ∈ Bucket.registeredCosts) →
      costs.mapM Bucket.ofCost = .ok (costs.map Bucket.mk) := by
    intro costs hcosts
    induction costs with
    | nil => rfl
    | cons cost costs ih =>
      rw [List.mapM_cons, Bucket.ofCost_eq, if_pos (hcosts cost (by simp)),
        ih fun c hc => hcosts c (by simp [hc])]
      rfl
  exact hall _ fun _ => mem_registeredCosts_of_mem_costTiers

/-- The tiers of a day count add up to what is reported of it. -/
theorem sum_costTiers (days : ℕ) : (costTiers days).sum = reportedDays days := by
  unfold costTiers clampThreshold reportedDays
  split
  · simp only [List.sum_cons, List.sum_nil]
    omega
  · by_cases htens : 0 < days / 10 * 10 <;> by_cases hones : 0 < days % 10 <;>
      simp only [htens, hones, List.filter_cons, List.filter_nil, decide_true, decide_false,
        if_true, Bool.false_eq_true, if_false, List.sum_cons, List.sum_nil] <;> omega

/-- A day count has a tier for every digit of what is reported of it that is not zero. -/
theorem length_costTiers (days : ℕ) :
    (costTiers days).length = nonzeroDigits (reportedDays days) := by
  unfold costTiers clampThreshold reportedDays nonzeroDigits
  split
  · next hlarge =>
    rw [Nat.min_eq_right (by omega)]
    simp
  · next hsmall =>
    rw [Nat.min_eq_left (by omega)]
    by_cases hzero : days = 0
    · simp [hzero]
    · rw [Nat.digits_def' (by decide) (by omega)]
      by_cases hten : days < 10
      · have hdiv : days / 10 = 0 := by omega
        have hmod : days % 10 = days := by omega
        simp [hdiv, hmod, hzero, Nat.pos_of_ne_zero hzero]
      · have htens : days / 10 ≠ 0 := by omega
        rw [Nat.digits_of_lt 10 (days / 10) htens (by omega)]
        by_cases hones : days % 10 = 0 <;>
          simp [hones, htens, Nat.pos_of_ne_zero]

end DeclaredDebt
