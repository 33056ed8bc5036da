import DeclaredDebt.Proofs.Collection

/-!
# What a summary counts

A summary is computed from a list of diagnostics, but only four things of the list show in it: how
many diagnostics there are, their days, how often each rule occurs, and in how many files they
stand, where a file counts by the steps of its path. These four determine the summary. None of them
depends on the order of the list, and on a concatenation all but the last add up; the files of two
parts add up only if the parts share none.

## Main definitions

* `Tally.countOf`, `Tally.sum`: the count of one name and of all names together.
* `Diagnostic.occurrences`, `Diagnostic.files`: how often a rule occurs, and the files by the steps
  of their paths.
* `Summary.Describes`: what a summary says about a list of diagnostics.
* `Path.SpelledAs`: two ways to write a path.
-/

namespace DeclaredDebt

/-! ## Counting names -/

namespace Tally

/-- The count of a name; a name without one counts as zero. -/
def countOf (t : Tally) (name : String) : ℕ := (t.count? name).getD 0

/-- All counts together. -/
def sum (t : Tally) : ℕ := (t.entries.map (·.2)).sum

theorem lookup_cons_ite (name key : String) (n : ℕ) (rest : List (String × ℕ)) :
    List.lookup name ((key, n) :: rest) = if name = key then some n else rest.lookup name := by
  rw [List.lookup_cons]
  by_cases h : name = key
  · simp [h]
  · simp [h, beq_eq_false_iff_ne.2 h]

theorem lookup_eq_none_of_lt {name : String} {l : List (String × ℕ)}
    (h : ∀ e ∈ l, name < e.1) : l.lookup name = none := by
  rw [List.lookup_eq_none_iff]
  intro e he
  simpa using (h e he).ne

/-- Changing the entry of one name in an ordered list leaves the other names alone. -/
theorem lookup_updateEntries (name other : String) (f : Option ℕ → ℕ) {l : List (String × ℕ)}
    (h : l.Pairwise fun a b => a.1 < b.1) :
    (updateEntries name f l).lookup other =
      if other = name then some (f (l.lookup name)) else l.lookup other := by
  induction l with
  | nil => simp [updateEntries, lookup_cons_ite]
  | cons e rest ih =>
    obtain ⟨key, n⟩ := e
    obtain ⟨hkey, hrest⟩ := List.pairwise_cons.1 h
    rw [updateEntries]
    by_cases hlt : name < key
    · -- The list is ordered, so the name is in front of all its entries and has none itself.
      have hnone : List.lookup name ((key, n) :: rest) = none := by
        refine lookup_eq_none_of_lt ?_
        intro e he
        rcases List.mem_cons.1 he with rfl | he
        · exact hlt
        · exact hlt.trans (hkey e he)
      rw [if_pos hlt, hnone, lookup_cons_ite]
    · rw [if_neg hlt]
      by_cases heq : name = key
      · subst heq
        simp only [if_true, lookup_cons_ite]
        by_cases hother : other = name <;> simp [hother]
      · rw [if_neg heq, lookup_cons_ite, ih hrest, lookup_cons_ite, lookup_cons_ite, if_neg heq]
        by_cases hother : other = name
        · simp [hother, heq]
        · simp [hother]

theorem count?_update (t : Tally) (name other : String) (f : Option ℕ → ℕ) :
    (t.update name f).count? other =
      if other = name then some (f (t.count? name)) else t.count? other :=
  lookup_updateEntries name other f t.ordered

/-- Counting a name once more adds one to its count and to no other. -/
theorem countOf_bump (t : Tally) (name other : String) :
    (t.bump name).countOf other = t.countOf other + if other = name then 1 else 0 := by
  rw [countOf, bump, count?_update]
  by_cases hother : other = name <;> simp [hother, countOf]

theorem isSome_count?_bump (t : Tally) (name other : String) :
    ((t.bump name).count? other).isSome = true ↔ other = name ∨ (t.count? other).isSome = true := by
  rw [bump, count?_update]
  by_cases hother : other = name <;> simp [hother]

theorem sum_updateEntries_bump (name : String) (l : List (String × ℕ)) :
    ((updateEntries name (fun n? => n?.getD 0 + 1) l).map (·.2)).sum = (l.map (·.2)).sum + 1 := by
  induction l with
  | nil => rfl
  | cons e rest ih =>
    obtain ⟨key, n⟩ := e
    rw [updateEntries]
    by_cases hlt : name < key
    · simp [hlt, Nat.add_comm]
    · by_cases heq : name = key
      · simp only [heq, lt_irrefl, if_false, if_true, List.map_cons, List.sum_cons,
          Option.getD_some]
        omega
      · simp only [hlt, heq, if_false, List.map_cons, List.sum_cons, ih]
        omega

theorem sum_bump (t : Tally) (name : String) : (t.bump name).sum = t.sum + 1 :=
  sum_updateEntries_bump name t.entries

/-- Counting a list of names adds to each count how often the name occurs in it. -/
theorem countOf_foldl_bump (names : List String) (t : Tally) (name : String) :
    (names.foldl bump t).countOf name = t.countOf name + names.count name := by
  induction names generalizing t with
  | nil => simp
  | cons first names ih =>
    rw [List.foldl_cons, ih, countOf_bump, List.count_cons]
    by_cases hname : name = first
    · simp only [hname, if_true, beq_self_eq_true]
      omega
    · simp [hname, Ne.symm hname]

/-- Exactly the names of the list get a count, besides those that had one. -/
theorem isSome_count?_foldl_bump (names : List String) (t : Tally) (name : String) :
    ((names.foldl bump t).count? name).isSome = true ↔
      name ∈ names ∨ (t.count? name).isSome = true := by
  induction names generalizing t with
  | nil => simp
  | cons first names ih =>
    rw [List.foldl_cons, ih, isSome_count?_bump, List.mem_cons]
    tauto

theorem sum_foldl_bump (names : List String) (t : Tally) :
    (names.foldl bump t).sum = t.sum + names.length := by
  induction names generalizing t with
  | nil => rfl
  | cons first names ih =>
    rw [List.foldl_cons, ih, sum_bump, List.length_cons]
    omega

@[simp] theorem countOf_ofNames (names : List String) (name : String) :
    (ofNames names).countOf name = names.count name := by
  rw [ofNames, countOf_foldl_bump]
  simp [countOf, count?, empty]

@[simp] theorem sum_ofNames (names : List String) : (ofNames names).sum = names.length := by
  rw [ofNames, sum_foldl_bump]
  simp [sum, empty]

/-- **A name has a count iff it occurs**, and the count is how often. -/
theorem count?_ofNames (names : List String) (name : String) (n : ℕ) :
    (ofNames names).count? name = some n ↔ n = names.count name ∧ 0 < n := by
  have hsome : ((ofNames names).count? name).isSome = true ↔ name ∈ names := by
    rw [ofNames, isSome_count?_foldl_bump]
    simp [count?, empty]
  have hcount := countOf_ofNames names name
  rw [countOf] at hcount
  rw [← List.count_pos_iff, ← hcount] at hsome
  rw [← hcount]
  cases hlookup : (ofNames names).count? name with
  | none => simp
  | some m =>
    simp only [hlookup, Option.isSome_some, Option.getD_some, true_iff] at hsome
    simp only [Option.some.injEq, Option.getD_some]
    omega

/-- An entry is the count of its name. -/
theorem mem_entries_iff (t : Tally) (name : String) (n : ℕ) :
    (name, n) ∈ t.entries ↔ t.count? name = some n := by
  obtain ⟨entries, ordered⟩ := t
  rw [count?]
  induction entries with
  | nil => simp
  | cons e rest ih =>
    obtain ⟨key, m⟩ := e
    obtain ⟨hkey, hrest⟩ := List.pairwise_cons.1 ordered
    rw [List.mem_cons, ih hrest, lookup_cons_ite]
    by_cases hname : name = key
    · subst hname
      simp [lookup_eq_none_of_lt hkey, eq_comm]
    · simp [hname]

/-- **Tallies with the same counts are equal.** -/
theorem ext_count? {s t : Tally} (h : ∀ name n, s.count? name = some n ↔ t.count? name = some n) :
    s = t := by
  have hnodup : ∀ t : Tally, t.entries.Nodup := fun t => t.ordered.imp fun hlt heq =>
    absurd (heq ▸ hlt) (lt_irrefl _)
  have hperm : s.entries.Perm t.entries := by
    rw [List.perm_ext_iff_of_nodup (hnodup s) (hnodup t)]
    rintro ⟨name, n⟩
    rw [mem_entries_iff, mem_entries_iff, h]
  refine Tally.ext (hperm.eq_of_pairwise ?_ s.ordered t.ordered)
  intro e e' _ _ hlt hgt
  exact absurd hgt hlt.asymm

end Tally

/-! ## Files by their steps -/

namespace Path

theorem Component.key_injective : Function.Injective Component.key := by
  intro c d h
  cases c with
  | normal name =>
    cases d with
    | normal name' =>
      have hname : name = name' :=
        List.map_injective_iff.2 (fun _ _ => Char.toNat_inj.1) (List.cons.inj h).2
      rw [hname]
    | _ => simp [Component.key] at h
  | _ => cases d <;> simp [Component.key] at h ⊢

/-- A path and another whose text has a slash or a dot step more. -/
inductive Respelled : Path → Path → Prop
  | doubledSlash (dir rest : String) : Respelled ⟨dir ++ "/" ++ rest⟩ ⟨dir ++ "//" ++ rest⟩
  | dotStep (dir rest : String) : Respelled ⟨dir ++ "/" ++ rest⟩ ⟨dir ++ "/./" ++ rest⟩
  | slashAtEnd (dir : String) : dir ≠ "" → Respelled ⟨dir⟩ ⟨dir ++ "/"⟩

/-- A slash or a dot step more adds no step to a path. -/
theorem Respelled.components_eq {p q : Path} (h : Respelled p q) :
    p.components = q.components := by
  have hdot : "/./".toList = ['/', '.', '/'] := rfl
  have hslash : "/".toList = ['/'] := rfl
  have hslashes : "//".toList = ['/', '/'] := rfl
  cases h with
  | doubledSlash dir rest =>
    simp only [components, String.toList_append, hslash, hslashes, List.append_assoc,
      List.cons_append, List.nil_append]
    rw [componentsOf_slash_append, componentsOf_slash_append dir.toList ('/' :: rest.toList)]
    rfl
  | dotStep dir rest =>
    simp only [components, String.toList_append, hslash, hdot, List.append_assoc,
      List.cons_append, List.nil_append]
    rw [componentsOf_slash_append, componentsOf_slash_append dir.toList ('.' :: '/' :: rest.toList)]
    rfl
  | slashAtEnd dir hdir =>
    have hne : dir.toList ≠ [] := by simpa using hdir
    simp only [components, String.toList_append, hslash]
    rw [componentsOf_append_slash hne []]
    exact (List.append_nil _).symm

/-- Two ways to write a path: each comes from the other by adding and removing slashes and dot
steps. -/
def SpelledAs : Path → Path → Prop := Relation.EqvGen Respelled

/-- **However a path is written, it has the same steps.** -/
theorem SpelledAs.components_eq {p q : Path} (h : p.SpelledAs q) :
    p.components = q.components := by
  induction h with
  | rel _ _ h => exact h.components_eq
  | refl _ => rfl
  | symm _ _ _ ih => exact ih.symm
  | trans _ _ _ _ _ ih ih' => exact ih.trans ih'

end Path

namespace Diagnostic

/-- How often a rule occurs among some diagnostics. -/
def occurrences (rule : String) (ds : List Diagnostic) : ℕ := ds.countP (·.ruleId = rule)

/-- The files that some diagnostics stand in, each by the steps of its path. -/
def files (ds : List Diagnostic) : Finset (List Path.Component) :=
  (ds.map (·.location.file.components)).toFinset

theorem count_map_ruleId (rule : String) (ds : List Diagnostic) :
    (ds.map (·.ruleId)).count rule = occurrences rule ds := by
  rw [occurrences, List.count, List.countP_map]
  refine List.countP_congr ?_
  intro d _
  simp

theorem card_files (ds : List Diagnostic) :
    (ds.map (·.location.file.key)).eraseDups.length = (files ds).card := by
  have hkeys : ((ds.map (·.location.file.key)).eraseDups).toFinset =
      (files ds).map ⟨_, List.map_injective_iff.2 Path.Component.key_injective⟩ := by
    ext key
    simp only [List.mem_toFinset, List.mem_eraseDups, files, Finset.mem_map, List.mem_map,
      Function.Embedding.coeFn_mk]
    constructor
    · rintro ⟨d, hd, rfl⟩
      exact ⟨_, ⟨d, hd, rfl⟩, rfl⟩
    · rintro ⟨_, ⟨d, hd, rfl⟩, rfl⟩
      exact ⟨d, hd, rfl⟩
  rw [← List.toFinset_card_of_nodup (FileTree.nodup_eraseDups _), hkeys, Finset.card_map]

theorem files_append (ds es : List Diagnostic) : files (ds ++ es) = files ds ∪ files es := by
  rw [files, List.map_append, List.toFinset_append]
  rfl

/-- Writing files in another way changes none of them. -/
theorem files_of_spelledAs {ds es : List Diagnostic}
    (h : List.Forall₂ (fun d e => d.location.file.SpelledAs e.location.file) ds es) :
    files ds = files es := by
  have hmap : ds.map (·.location.file.components) = es.map (·.location.file.components) := by
    induction h with
    | nil => rfl
    | cons hfile _ ih => rw [List.map_cons, List.map_cons, hfile.components_eq, ih]
  rw [files, hmap, files]

theorem files_perm {ds es : List Diagnostic} (h : ds.Perm es) : files ds = files es :=
  List.toFinset_eq_of_perm _ _ (h.map _)

/-- Two lists of diagnostics share no file. -/
theorem disjoint_files_iff (ds es : List Diagnostic) :
    Disjoint (files ds) (files es) ↔
      ∀ d ∈ ds, ∀ e ∈ es, d.location.file.components ≠ e.location.file.components := by
  simp only [Finset.disjoint_left, files, List.mem_toFinset, List.mem_map]
  constructor
  · intro h d hd e he heq
    exact h ⟨d, hd, rfl⟩ ⟨e, he, heq.symm⟩
  · rintro h _ ⟨d, hd, rfl⟩ ⟨e, he, heq⟩
    exact h d hd e he heq.symm

end Diagnostic

/-! ## What a summary says -/

namespace Summary

/-- What a summary says about some diagnostics. -/
structure Describes (s : Summary) (ds : List Diagnostic) : Prop where
  total : s.total = ds.length
  total_byRule : s.total = s.byRule.sum
  totalDays : s.totalDays = (ds.map (·.days)).sum
  /-- A rule has a count iff it occurs, and the count is how often. -/
  byRule : ∀ rule n,
    s.byRule.count? rule = some n ↔ n = Diagnostic.occurrences rule ds ∧ 0 < n
  filesWithDebt : s.filesWithDebt = (Diagnostic.files ds).card

theorem describes_ofDiagnostics (ds : List Diagnostic) : (ofDiagnostics ds).Describes ds where
  total := rfl
  total_byRule := by simp [ofDiagnostics]
  totalDays := by rw [ofDiagnostics, ← List.sum_eq_foldr]
  byRule := by
    intro rule n
    rw [ofDiagnostics, Tally.count?_ofNames, Diagnostic.count_map_ruleId]
  filesWithDebt := Diagnostic.card_files ds

/-- Only one summary describes some diagnostics. -/
theorem Describes.unique {s t : Summary} {ds : List Diagnostic} (hs : s.Describes ds)
    (ht : t.Describes ds) : s = t := by
  have hbyRule : s.byRule = t.byRule :=
    Tally.ext_count? fun rule n => (hs.byRule rule n).trans (ht.byRule rule n).symm
  obtain ⟨total, totalDays, byRule, filesWithDebt⟩ := s
  obtain ⟨total', totalDays', byRule', filesWithDebt'⟩ := t
  simp only [Summary.mk.injEq]
  exact ⟨hs.total.trans ht.total.symm, hs.totalDays.trans ht.totalDays.symm, hbyRule,
    hs.filesWithDebt.trans ht.filesWithDebt.symm⟩

/-- A summary describes the diagnostics in any order. -/
theorem Describes.perm {s : Summary} {ds es : List Diagnostic} (h : s.Describes ds)
    (hperm : ds.Perm es) : s.Describes es where
  total := h.total.trans hperm.length_eq
  total_byRule := h.total_byRule
  totalDays := h.totalDays.trans (hperm.map _).sum_eq
  byRule := by
    intro rule n
    rw [h.byRule, Diagnostic.occurrences, hperm.countP_eq]
    rfl
  filesWithDebt := by rw [h.filesWithDebt, Diagnostic.files_perm hperm]

theorem ofDiagnostics_perm {ds es : List Diagnostic} (h : ds.Perm es) :
    ofDiagnostics ds = ofDiagnostics es :=
  ((describes_ofDiagnostics ds).perm h).unique (describes_ofDiagnostics es)

theorem countOf_byRule (ds : List Diagnostic) (rule : String) :
    (ofDiagnostics ds).byRule.countOf rule = Diagnostic.occurrences rule ds := by
  rw [ofDiagnostics, Tally.countOf_ofNames, Diagnostic.count_map_ruleId]

/-- How the summary of a concatenation follows from those of its parts. -/
structure Adds (s t sum : Summary) : Prop where
  total : sum.total = s.total + t.total
  totalDays : sum.totalDays = s.totalDays + t.totalDays
  byRule : ∀ rule, sum.byRule.countOf rule = s.byRule.countOf rule + t.byRule.countOf rule
  le_filesWithDebt : max s.filesWithDebt t.filesWithDebt ≤ sum.filesWithDebt
  filesWithDebt_le : sum.filesWithDebt ≤ s.filesWithDebt + t.filesWithDebt

theorem adds_append (ds es : List Diagnostic) :
    Adds (ofDiagnostics ds) (ofDiagnostics es) (ofDiagnostics (ds ++ es)) where
  total := List.length_append
  totalDays := by
    rw [(describes_ofDiagnostics _).totalDays, List.map_append, List.sum_append,
      (describes_ofDiagnostics ds).totalDays, (describes_ofDiagnostics es).totalDays]
  byRule := by
    intro rule
    simp only [countOf_byRule, Diagnostic.occurrences, List.countP_append]
  le_filesWithDebt := by
    simp only [(describes_ofDiagnostics _).filesWithDebt, Diagnostic.files_append]
    exact max_le (Finset.card_le_card Finset.subset_union_left)
      (Finset.card_le_card Finset.subset_union_right)
  filesWithDebt_le := by
    simp only [(describes_ofDiagnostics _).filesWithDebt, Diagnostic.files_append]
    exact Finset.card_union_le _ _

/-- The files of two parts add up iff the parts share none. -/
theorem filesWithDebt_append_eq_iff (ds es : List Diagnostic) :
    (ofDiagnostics (ds ++ es)).filesWithDebt =
        (ofDiagnostics ds).filesWithDebt + (ofDiagnostics es).filesWithDebt ↔
      ∀ d ∈ ds, ∀ e ∈ es, d.location.file.components ≠ e.location.file.components := by
  simp only [(describes_ofDiagnostics _).filesWithDebt, Diagnostic.files_append]
  rw [Finset.card_union_eq_card_add_card, Diagnostic.disjoint_files_iff]

/-- **A summary is determined by what it counts.** It is the one summary that describes the
diagnostics, and it is the same for the diagnostics in any order. A file counts once in whatever
ways it is written. On a concatenation the diagnostics, the days and the occurrences of every rule
add up, and the files lie between those of the larger part and those of both, which they reach iff
the parts share no file. -/
theorem summary_counts_diagnostics (ds : List Diagnostic) :
    (∀ s, s = ofDiagnostics ds ↔ s.Describes ds) ∧
    (∀ es, List.Forall₂ (fun d e => d.location.file.SpelledAs e.location.file) ds es →
      (ofDiagnostics es).filesWithDebt = (ofDiagnostics ds).filesWithDebt) ∧
    (∀ es, ds.Perm es → ofDiagnostics es = ofDiagnostics ds) ∧
    ∀ es,
      Adds (ofDiagnostics ds) (ofDiagnostics es) (ofDiagnostics (ds ++ es)) ∧
      ((ofDiagnostics (ds ++ es)).filesWithDebt =
          (ofDiagnostics ds).filesWithDebt + (ofDiagnostics es).filesWithDebt ↔
        ∀ d ∈ ds, ∀ e ∈ es, d.location.file.components ≠ e.location.file.components) := by
  refine ⟨?_, ?_, ?_, ?_⟩
  · intro s
    constructor
    · rintro rfl
      exact describes_ofDiagnostics ds
    · intro hs
      exact hs.unique (describes_ofDiagnostics ds)
  · intro es hfiles
    rw [(describes_ofDiagnostics es).filesWithDebt, (describes_ofDiagnostics ds).filesWithDebt,
      Diagnostic.files_of_spelledAs hfiles]
  · intro es hperm
    exact (ofDiagnostics_perm hperm).symm
  · intro es
    exact ⟨adds_append ds es, filesWithDebt_append_eq_iff ds es⟩

/-- Two diagnostics of one rule, in a file that is written in two ways. -/
def respelledFile : List Diagnostic :=
  [{ ruleId := "ManualDebt3Days", days := 3, location := ⟨⟨"a/b"⟩, 1, 2, 0, 0⟩ },
    { ruleId := "ManualDebt3Days", days := 3, location := ⟨⟨"a/./b/"⟩, 7, 2, 0, 0⟩ }]

/-- Both diagnostics count, their file counts once, and so it does when they come in the other order
and their file is written in one way. -/
theorem respelledFile_counts_once :
    (ofDiagnostics respelledFile).byRule.count? "ManualDebt3Days" = some 2 ∧
    (ofDiagnostics respelledFile).filesWithDebt = 1 ∧
    ofDiagnostics respelledFile.reverse = ofDiagnostics respelledFile ∧
    (ofDiagnostics (respelledFile.map fun d =>
      { d with location := { d.location with file := ⟨"a//b"⟩ } })).filesWithDebt = 1 := by
  obtain ⟨hdescribes, hspelled, hperm, -⟩ := summary_counts_diagnostics respelledFile
  have hfiles : (ofDiagnostics respelledFile).filesWithDebt = 1 := by
    rw [((hdescribes _).1 rfl).filesWithDebt]
    decide
  have hab : Path.SpelledAs ⟨"a/b"⟩ ⟨"a//b"⟩ := .rel _ _ (.doubledSlash "a" "b")
  have hdot : Path.SpelledAs ⟨"a/b"⟩ ⟨"a/./b"⟩ := .rel _ _ (.dotStep "a" "b")
  have hend : Path.SpelledAs ⟨"a/./b"⟩ ⟨"a/./b/"⟩ := .rel _ _ (.slashAtEnd "a/./b" (by decide))
  refine ⟨?_, hfiles, hperm _ (List.reverse_perm _).symm, ?_⟩
  · rw [((hdescribes _).1 rfl).byRule]
    decide
  · rw [hspelled, hfiles]
    have hback : Path.SpelledAs ⟨"a/./b/"⟩ ⟨"a/b"⟩ := .symm _ _ (.trans _ _ _ hdot hend)
    exact .cons hab (.cons (.trans _ _ _ hback hab) .nil)

end Summary

end DeclaredDebt
