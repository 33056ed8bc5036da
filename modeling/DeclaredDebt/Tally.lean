/-!
# Tallies

A tally counts by name. Its entries are kept in the order of their names, each name once, so that
two tallies with the same counts are equal and a tally prints in one way only.

## Main definitions

* `Tally.count?`: the count of a name.
* `Tally.update`: changes the count of one name; `Tally.set` and `Tally.bump` are its two uses.
-/

namespace DeclaredDebt

/-- Counts by name, in the order of the names. -/
@[ext] structure Tally where
  entries : List (String × Nat)
  ordered : entries.Pairwise fun a b => a.1 < b.1

namespace Tally

/-- Changes the entry of a name in an ordered list, or puts a new one in its place. -/
def updateEntries (name : String) (f : Option Nat → Nat) :
    List (String × Nat) → List (String × Nat)
  | [] => [(name, f none)]
  | (key, n) :: rest =>
    if name < key then (name, f none) :: (key, n) :: rest
    else if name = key then (key, f (some n)) :: rest
    else (key, n) :: updateEntries name f rest

theorem mem_updateEntries {name : String} {f : Option Nat → Nat} {e : String × Nat}
    {l : List (String × Nat)} (h : e ∈ updateEntries name f l) :
    e.1 = name ∨ ∃ e' ∈ l, e.1 = e'.1 := by
  induction l with
  | nil => simp_all [updateEntries]
  | cons hd tl ih =>
    obtain ⟨key, n⟩ := hd
    rw [updateEntries] at h
    split at h
    · rcases List.mem_cons.1 h with rfl | h
      · exact Or.inl rfl
      · exact Or.inr ⟨e, h, rfl⟩
    · split at h
      · rcases List.mem_cons.1 h with rfl | h
        · exact Or.inr ⟨(key, n), by simp, rfl⟩
        · exact Or.inr ⟨e, by simp [h], rfl⟩
      · rcases List.mem_cons.1 h with rfl | h
        · exact Or.inr ⟨(key, n), by simp, rfl⟩
        · rcases ih h with h | ⟨e', he, h⟩
          · exact Or.inl h
          · exact Or.inr ⟨e', by simp [he], h⟩

/-- A name that is neither below nor equal to another is above it. -/
theorem lt_of_not_lt_of_ne {a b : String} (h : ¬ a < b) (hne : a ≠ b) : b < a := by
  rcases String.le_total a b with hab | hba
  · exact absurd (String.le_antisymm hab (String.not_lt.1 h)) hne
  · exact String.not_le.1 fun hab => hne (String.le_antisymm hab hba)

theorem pairwise_updateEntries (name : String) (f : Option Nat → Nat) (l : List (String × Nat))
    (h : l.Pairwise fun a b => a.1 < b.1) :
    (updateEntries name f l).Pairwise fun a b => a.1 < b.1 := by
  induction l with
  | nil => simp [updateEntries]
  | cons hd tl ih =>
    obtain ⟨key, n⟩ := hd
    obtain ⟨hhd, htl⟩ := List.pairwise_cons.1 h
    rw [updateEntries]
    split
    · next hlt =>
      refine List.pairwise_cons.2 ⟨fun e he => ?_, h⟩
      rcases List.mem_cons.1 he with rfl | he
      · exact hlt
      · exact String.lt_trans hlt (hhd e he)
    · next hlt =>
      split
      · exact List.pairwise_cons.2 ⟨hhd, htl⟩
      · next hne =>
        refine List.pairwise_cons.2 ⟨fun e he => ?_, ih htl⟩
        rcases mem_updateEntries he with heq | ⟨e', he', heq⟩
        · exact heq ▸ lt_of_not_lt_of_ne hlt hne
        · exact heq ▸ hhd e' he'

/-- No counts at all. -/
def empty : Tally := ⟨[], .nil⟩

instance : Inhabited Tally := ⟨empty⟩

instance : DecidableEq Tally := fun s t =>
  decidable_of_iff (s.entries = t.entries) Tally.ext_iff.symm

/-- Changes the count of one name; the function sees whether there was one. -/
def update (t : Tally) (name : String) (f : Option Nat → Nat) : Tally :=
  ⟨updateEntries name f t.entries, pairwise_updateEntries name f t.entries t.ordered⟩

/-- Gives a name a count, whatever it had before. -/
def set (t : Tally) (name : String) (n : Nat) : Tally := t.update name fun _ => n

/-- Counts a name once more. -/
def bump (t : Tally) (name : String) : Tally := t.update name fun n? => n?.getD 0 + 1

/-- The count of a name. -/
def count? (t : Tally) (name : String) : Option Nat := t.entries.lookup name

/-- How often each name stands in a list. -/
def ofNames (names : List String) : Tally := names.foldl bump empty

/-- The tally with the given counts; of two for one name the later holds. -/
def ofEntries (entries : List (String × Nat)) : Tally :=
  entries.foldl (fun t e => t.set e.1 e.2) empty

end Tally

end DeclaredDebt
