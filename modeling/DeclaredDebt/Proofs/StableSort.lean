import Mathlib

/-!
# Stable sorting of contributions

Reports are sorted by keys that do not tell all their entries apart, so an order of the result is
fixed by two things only: it is sorted, and entries with the same key keep the order they came in.
The lemmas here say that these two determine a sorted list, and derive what sorting does to a
concatenation of blocks: blocks that already stand in order can be sorted one by one, and blocks
that share no key can be concatenated in any order.

## Main definitions

* `SortOrder le`: a comparison that a list can be sorted by.
* `tied le a b`: two entries that the comparison does not tell apart.
-/

namespace DeclaredDebt

/-- A comparison that a list can be sorted by. Different entries may compare both ways. -/
structure SortOrder {α : Type} (le : α → α → Bool) : Prop where
  trans : ∀ a b c, le a b = true → le b c = true → le a c = true
  total : ∀ a b, (le a b || le b a) = true

namespace SortOrder

variable {α β : Type} {le : α → α → Bool}

/-- Whether a comparison does not tell two entries apart. -/
def tied (le : α → α → Bool) (a b : α) : Bool := le a b && le b a

/-- Comparing by a key in a linear order is a comparison to sort by. -/
theorem ofKey {κ : Type} [LinearOrder κ] (key : α → κ)
    (hle : ∀ a b, le a b = true ↔ key a ≤ key b) : SortOrder le where
  trans := by
    intro a b c hab hbc
    exact (hle a c).2 (le_trans ((hle a b).1 hab) ((hle b c).1 hbc))
  total := by
    intro a b
    rw [Bool.or_eq_true, hle, hle]
    exact le_total (key a) (key b)

theorem tied_self (h : SortOrder le) (a : α) : tied le a a = true := by
  have haa := h.total a a
  simpa [tied] using haa

/-- Two entries that are tied with a third are tied with each other. -/
theorem tied_of_tied (h : SortOrder le) {a x y : α} (hx : tied le a x = true)
    (hy : tied le a y = true) : tied le x y = true := by
  simp only [tied, Bool.and_eq_true] at hx hy ⊢
  exact ⟨h.trans x a y hx.2 hy.1, h.trans y a x hy.2 hx.1⟩

/-! ## What determines a sorted list -/

/-- Sorting keeps the order of entries that are tied. -/
theorem filter_tied_mergeSort (h : SortOrder le) (a : α) (l : List α) :
    (l.mergeSort le).filter (tied le a) = l.filter (tied le a) := by
  have hsorted : (l.filter (tied le a)).Pairwise (fun x y => le x y = true) := by
    refine List.pairwise_of_forall_mem_list ?_
    intro x hx y hy
    have hxy := h.tied_of_tied (List.mem_filter.1 hx).2 (List.mem_filter.1 hy).2
    exact (Bool.and_eq_true_iff.1 hxy).1
  have hsub : (l.filter (tied le a)).Sublist (l.mergeSort le) :=
    List.sublist_mergeSort h.trans h.total hsorted List.filter_sublist
  have hfilter := hsub.filter (tied le a)
  simp only [List.filter_filter, Bool.and_self] at hfilter
  have hlength := ((List.mergeSort_perm l le).filter (tied le a)).length_eq
  exact (hfilter.eq_of_length hlength.symm).symm

/-- A sorted list is determined by the entries tied with each value, in their order. -/
theorem eq_of_filter_tied_eq (h : SortOrder le) {s t : List α}
    (hs : s.Pairwise fun x y => le x y = true) (ht : t.Pairwise fun x y => le x y = true)
    (heq : ∀ a, s.filter (tied le a) = t.filter (tied le a)) : s = t := by
  have hmem : ∀ {u v : List α}, (∀ a, u.filter (tied le a) = v.filter (tied le a)) →
      ∀ x ∈ u, x ∈ v := by
    intro u v huv x hx
    have hx' : x ∈ u.filter (tied le x) := List.mem_filter.2 ⟨hx, h.tied_self x⟩
    exact (List.mem_filter.1 (huv x ▸ hx')).1
  induction s generalizing t with
  | nil =>
    cases t with
    | nil => rfl
    | cons y t => exact absurd (hmem (fun a => (heq a).symm) y (by simp)) (by simp)
  | cons x s ih =>
    cases t with
    | nil => exact absurd (hmem heq x (by simp)) (by simp)
    | cons y t =>
      obtain ⟨hxs, hs'⟩ := List.pairwise_cons.1 hs
      obtain ⟨hyt, ht'⟩ := List.pairwise_cons.1 ht
      -- Each head stands in the other list, so neither comes before the other.
      have hxy : le x y = true := by
        rcases List.mem_cons.1 (hmem (fun a => (heq a).symm) y (by simp)) with rfl | hy
        · exact (Bool.and_eq_true_iff.1 (h.tied_self y)).1
        · exact hxs y hy
      have hyx : le y x = true := by
        rcases List.mem_cons.1 (hmem heq x (by simp)) with rfl | hx
        · exact (Bool.and_eq_true_iff.1 (h.tied_self x)).1
        · exact hyt x hx
      have hhead := heq x
      rw [List.filter_cons_of_pos (h.tied_self x),
        List.filter_cons_of_pos (by simp [tied, hxy, hyx])] at hhead
      obtain ⟨rfl, -⟩ := List.cons.inj hhead
      have htail : ∀ a, s.filter (tied le a) = t.filter (tied le a) := by
        intro a
        have ha := heq a
        by_cases hax : tied le a x = true
        · rw [List.filter_cons_of_pos hax, List.filter_cons_of_pos hax] at ha
          exact (List.cons.inj ha).2
        · rwa [List.filter_cons_of_neg hax, List.filter_cons_of_neg hax] at ha
      rw [ih hs' ht' htail]

/-- Lists that agree on the entries tied with each value are sorted to the same list. -/
theorem mergeSort_eq_mergeSort (h : SortOrder le) {l m : List α}
    (heq : ∀ a, l.filter (tied le a) = m.filter (tied le a)) :
    l.mergeSort le = m.mergeSort le := by
  refine h.eq_of_filter_tied_eq (List.pairwise_mergeSort h.trans h.total l)
    (List.pairwise_mergeSort h.trans h.total m) ?_
  intro a
  rw [h.filter_tied_mergeSort, h.filter_tied_mergeSort, heq a]

/-- Entries can be dropped before or after sorting. -/
theorem filter_mergeSort (h : SortOrder le) (keep : α → Bool) (l : List α) :
    (l.mergeSort le).filter keep = (l.filter keep).mergeSort le := by
  refine h.eq_of_filter_tied_eq ((List.pairwise_mergeSort h.trans h.total l).filter keep)
    (List.pairwise_mergeSort h.trans h.total _) ?_
  intro a
  rw [h.filter_tied_mergeSort, List.filter_comm, h.filter_tied_mergeSort, List.filter_comm]

/-! ## Sorting a concatenation of blocks -/

/-- Blocks that stand in order can be sorted one by one. -/
theorem mergeSort_flatMap (h : SortOrder le) (f : β → List α) {blocks : List β}
    (hblocks : blocks.Pairwise fun b c => ∀ x ∈ f b, ∀ y ∈ f c, le x y = true) :
    (blocks.flatMap f).mergeSort le = blocks.flatMap fun b => (f b).mergeSort le := by
  refine h.eq_of_filter_tied_eq (List.pairwise_mergeSort h.trans h.total _) ?_ ?_
  · refine List.pairwise_flatMap.2 ⟨fun b _ => List.pairwise_mergeSort h.trans h.total _, ?_⟩
    refine hblocks.imp ?_
    intro b c hbc x hx y hy
    exact hbc x (List.mem_mergeSort.1 hx) y (List.mem_mergeSort.1 hy)
  · intro a
    rw [h.filter_tied_mergeSort, List.filter_flatMap, List.filter_flatMap]
    simp only [h.filter_tied_mergeSort]

/-- Of blocks that share no key, at most one has entries tied with a value, so the order of the
blocks does not show among these. -/
theorem filter_tied_flatMap_perm (h : SortOrder le) (f : β → List α) {blocks blocks' : List β}
    (hperm : blocks.Perm blocks')
    (hblocks : blocks.Pairwise fun b c => ∀ x ∈ f b, ∀ y ∈ f c, tied le x y = false) (a : α) :
    (blocks.flatMap f).filter (tied le a) = (blocks'.flatMap f).filter (tied le a) := by
  induction hperm with
  | nil => rfl
  | cons b _ ih =>
    simp only [List.flatMap_cons, List.filter_append]
    rw [ih (List.pairwise_cons.1 hblocks).2]
  | swap b c rest =>
    simp only [List.flatMap_cons, List.filter_append]
    rcases hb : (f b).filter (tied le a) with _ | ⟨x, xs⟩
    · simp
    · rcases hc : (f c).filter (tied le a) with _ | ⟨y, ys⟩
      · simp
      · have hx : x ∈ (f b).filter (tied le a) := by simp [hb]
        have hy : y ∈ (f c).filter (tied le a) := by simp [hc]
        obtain ⟨hxb, hax⟩ := List.mem_filter.1 hx
        obtain ⟨hyc, hay⟩ := List.mem_filter.1 hy
        have hapart := (List.pairwise_cons.1 hblocks).1 b (by simp) y hyc x hxb
        exact absurd (h.tied_of_tied hay hax) (by simp [hapart])
  | trans hfirst _ ih ih' =>
    refine (ih hblocks).trans (ih' (hfirst.pairwise hblocks ?_))
    intro b c hbc y hy x hx
    have hapart := hbc x hx y hy
    simpa [tied, Bool.and_comm] using hapart

/-- Blocks that share no key can be concatenated in any order before they are sorted. -/
theorem mergeSort_flatMap_perm (h : SortOrder le) (f : β → List α) {blocks blocks' : List β}
    (hperm : blocks.Perm blocks')
    (hblocks : blocks.Pairwise fun b c => ∀ x ∈ f b, ∀ y ∈ f c, tied le x y = false) :
    (blocks.flatMap f).mergeSort le = (blocks'.flatMap f).mergeSort le :=
  h.mergeSort_eq_mergeSort (h.filter_tied_flatMap_perm f hperm hblocks)

/-! ## Blocks with a key of their own -/

section Keyed

variable {κ : Type} [LinearOrder κ] {key : α → κ} {own : β → κ} {f : β → List α}
  {blocks blocks' : List β}

/-- Blocks with increasing keys can be sorted one by one, by any comparison that goes by the key
first. -/
theorem mergeSort_flatMap_of_key (h : SortOrder le)
    (hkey : ∀ x y, le x y = true → key x ≤ key y)
    (hown : ∀ b ∈ blocks, ∀ x ∈ f b, key x = own b)
    (hlt : blocks.Pairwise fun b c => own b < own c) :
    (blocks.flatMap f).mergeSort le = blocks.flatMap fun b => (f b).mergeSort le := by
  refine h.mergeSort_flatMap f (hlt.imp_of_mem ?_)
  intro b c hb hc hbc x hx y hy
  rcases Bool.or_eq_true_iff.1 (h.total x y) with hxy | hyx
  · exact hxy
  · have hle := hkey y x hyx
    rw [hown b hb x hx, hown c hc y hy] at hle
    exact absurd hbc hle.not_gt

/-- Blocks with different keys can be concatenated in any order before they are sorted by a
comparison that goes by the key first. -/
theorem mergeSort_flatMap_perm_of_key (h : SortOrder le)
    (hkey : ∀ x y, le x y = true → key x ≤ key y) (hperm : blocks.Perm blocks')
    (hown : ∀ b ∈ blocks, ∀ x ∈ f b, key x = own b)
    (hne : blocks.Pairwise fun b c => own b ≠ own c) :
    (blocks.flatMap f).mergeSort le = (blocks'.flatMap f).mergeSort le := by
  refine h.mergeSort_flatMap_perm f hperm (hne.imp_of_mem ?_)
  intro b c hb hc hbc x hx y hy
  refine Bool.eq_false_iff.2 fun htied => hbc ?_
  obtain ⟨hxy, hyx⟩ := Bool.and_eq_true_iff.1 htied
  rw [← hown b hb x hx, ← hown c hc y hy]
  exact le_antisymm (hkey x y hxy) (hkey y x hyx)

end Keyed

end SortOrder

end DeclaredDebt
