import DeclaredDebt.Proofs.ParsedTrees
import DeclaredDebt.Proofs.TokenPlaces
import DeclaredDebt.Proofs.TreeWalk

/-!
# Where the attributes of a source stand

An attribute starts with a token of its name, and no other attribute stands in front of that token,
not even one inside. The first tokens of the attributes are therefore among the tokens of the source
in their order, each once, and the attributes that are found have increasing places.

## Main definitions

* `Named children`: what is in an attribute starts with a name.
* `firstToken?`: the token that some trees start with.
-/

namespace DeclaredDebt.CSharp

/-- What is in an attribute starts with a name, and the name with a token. -/
def Named (children : List Tree) : Prop :=
  ∃ t name others, children = .node .name (.leaf t :: name) :: others

/-- The token that some trees start with. -/
def firstToken? (trees : List Tree) : Option Token := (forestLeaves trees).head?

/-! ## Attributes start with names -/

theorem forestAttributeNodes_append (trees more : List Tree) :
    forestAttributeNodes (trees ++ more) =
      forestAttributeNodes trees ++ forestAttributeNodes more := by
  induction trees with
  | nil => rfl
  | cons t trees ih =>
    rw [List.cons_append, forestAttributeNodes, forestAttributeNodes, ih, List.append_assoc]

theorem Tree.attributeNodes_of_ne {kind : NodeKind} (h : kind ≠ .attribute)
    (children : List Tree) :
    (Tree.node kind children).attributeNodes = forestAttributeNodes children := by
  rw [Tree.attributeNodes]
  exact h

theorem readingLaw_attributeNodes (Q : Token → Prop) (P : List Tree → Prop) :
    ReadingLaw fun ts trees rest => (∀ t ∈ ts, Q t) →
      (∀ t ∈ rest, Q t) ∧ ∀ children ∈ forestAttributeNodes trees, P children where
  nothing := by
    intro ts hts
    refine ⟨hts, ?_⟩
    intro children h
    cases h
  token := by
    intro t rest hts
    refine ⟨fun t ht => hts t (List.mem_cons_of_mem _ ht), ?_⟩
    intro children h
    cases h
  append := by
    intro ts trees behind more rest hfirst hmore hts
    obtain ⟨hbehind, htrees⟩ := hfirst hts
    obtain ⟨hrest, hmore⟩ := hmore hbehind
    refine ⟨hrest, ?_⟩
    intro children h
    rw [forestAttributeNodes_append, List.mem_append] at h
    exact h.elim (htrees children) (hmore children)

/-- What holds of everything that a rule for attributes reads, holds of every attribute of a
source. -/
theorem forall_attributeNodes_of_parse? {Q : Token → Prop} {P : List Tree → Prop}
    (hP : ∀ s, ∀ n ∈ (grammar s).nodes, n.1 = .attribute → ∀ depth ts trees rest,
      (∀ t ∈ ts, Q t) → n.2.run (runSymbol grammar depth) ts = some (trees, rest) → P trees)
    {start : Symbol} {ts : List Token} {trees : List Tree} (hts : ∀ t ∈ ts, Q t)
    (h : parse? grammar start ts = some trees) :
    ∀ children ∈ forestAttributeNodes trees, P children := by
  refine ((readingLaw_attributeNodes Q P).of_parse? ?_ h hts).2
  rintro s ⟨kind, a⟩ hn depth ts inner rest hrun hinner hts
  obtain ⟨hrest, hinner⟩ := hinner hts
  refine ⟨hrest, ?_⟩
  intro children hmem
  rw [forestAttributeNodes, forestAttributeNodes, List.append_nil] at hmem
  by_cases hkind : kind = .attribute
  · subst hkind
    rcases List.mem_cons.1 hmem with rfl | hmem
    · exact hP s _ hn rfl depth ts _ rest hts hrun
    · exact hinner children hmem
  · rw [Tree.attributeNodes_of_ne hkind] at hmem
    exact hinner children hmem

/-- **Every attribute of a source starts with its name.** -/
theorem named_of_parse? {start : Symbol} {ts : List Token} {trees : List Tree}
    (h : parse? grammar start ts = some trees) :
    ∀ children ∈ forestAttributeNodes trees, Named children := by
  refine forall_attributeNodes_of_parse? ?_ (fun _ _ => trivial) h
  intro s n hn hkind depth ts trees rest _ hrun
  exact Rule.of_startsWithName (startsWithName_of_mem_nodes hn hkind) hrun

/-! ## First tokens -/

mutual

/-- The attributes of a tree start with different tokens of it, in their order. -/
theorem Tree.firstTokens_sublist (tree : Tree)
    (h : ∀ children ∈ tree.attributeNodes, Named children) :
    (tree.attributeNodes.filterMap firstToken?).Sublist tree.leaves := by
  cases tree with
  | leaf t => exact List.nil_sublist _
  | node kind children =>
    by_cases hkind : kind = .attribute
    · subst hkind
      obtain ⟨t, name, others, heq⟩ := h children List.mem_cons_self
      -- the first token is the attribute's own; the attributes inside stand behind it
      have hinside : forestAttributeNodes children =
          forestAttributeNodes name ++ forestAttributeNodes others := by rw [heq]; rfl
      have hleaves : forestLeaves children = t :: (forestLeaves name ++ forestLeaves others) := by
        rw [heq]
        rfl
      have hfirst : firstToken? children = some t := by rw [firstToken?, hleaves]; rfl
      have hnamed : ∀ c ∈ forestAttributeNodes name ++ forestAttributeNodes others, Named c := by
        intro c hc
        rw [← hinside] at hc
        exact h c (List.mem_cons_of_mem _ hc)
      have hname : sizeOf name < sizeOf children := by rw [heq]; simp; omega
      have hothers : sizeOf others < sizeOf children := by rw [heq]; simp
      rw [Tree.attributeNodes, Tree.leaves, List.filterMap_cons_some hfirst, hinside,
        List.filterMap_append, hleaves]
      refine List.Sublist.cons_cons t (List.Sublist.append ?_ ?_)
      · exact forest_firstTokens_sublist name fun c hc => hnamed c (List.mem_append_left _ hc)
      · exact forest_firstTokens_sublist others fun c hc => hnamed c (List.mem_append_right _ hc)
    · rw [Tree.attributeNodes_of_ne hkind] at h ⊢
      rw [Tree.leaves]
      exact forest_firstTokens_sublist children h
termination_by sizeOf tree

/-- The attributes of some trees start with different tokens of them, in their order. -/
theorem forest_firstTokens_sublist (trees : List Tree)
    (h : ∀ children ∈ forestAttributeNodes trees, Named children) :
    ((forestAttributeNodes trees).filterMap firstToken?).Sublist (forestLeaves trees) := by
  cases trees with
  | nil => exact List.nil_sublist _
  | cons t rest =>
    rw [forestAttributeNodes, forestLeaves, List.filterMap_append]
    refine List.Sublist.append ?_ ?_
    · exact Tree.firstTokens_sublist t fun c hc => h c (List.mem_append_left _ hc)
    · exact forest_firstTokens_sublist rest fun c hc => h c (List.mem_append_right _ hc)
termination_by sizeOf trees

end

/-- The first tokens of the attributes of a source stand in it one behind the other. -/
theorem standIn_firstTokens {source : List Char} {trees : List Tree}
    (h : treesOf? source = some trees) :
    StandIn 0 source ((forestAttributeNodes trees).filterMap firstToken?) := by
  obtain ⟨lexemes, hlexemes, hparse⟩ := Option.bind_eq_some_iff.1 h
  have hsublist := forest_firstTokens_sublist trees (named_of_parse? hparse)
  rw [forestLeaves_of_parse? hparse] at hsublist
  exact (standIn_tokens hlexemes).sublist hsublist

/-! ## Usages -/

theorem Named.exists_firstToken? {children : List Tree} (h : Named children) :
    ∃ t, firstToken? children = some t := by
  obtain ⟨t, name, others, rfl⟩ := h
  exact ⟨t, rfl⟩

theorem start_spanOf {leaves : List Token} {t : Token} (h : leaves.head? = some t) :
    (spanOf leaves).1 = t.start := by
  cases leaves with
  | nil => cases h
  | cons first rest =>
    cases h
    cases hlast : (t :: rest).getLast? with
    | none => simp at hlast
    | some last => simp [spanOf, hlast]

/-- A usage stands where the first token of its attribute does. -/
theorem place_usageOf {file : Path} {source : List Char} {children : List Tree} {t : Token}
    (h : firstToken? children = some t) :
    ((usageOf file source children).location.line, (usageOf file source children).location.column) =
      position source t.start := by
  simp only [usageOf, start_spanOf h]

/-- What holds of tokens in the order of the source holds of the usages that start with them. -/
theorem pairwise_usages (file : Path) {source : List Char} {trees : List Tree}
    (htrees : treesOf? source = some trees) {R : Token → Token → Prop} {S : Usage → Usage → Prop}
    (htokens : ∀ ts, StandIn 0 source ts → ts.Pairwise R)
    (husages : ∀ children others t u, firstToken? children = some t → firstToken? others = some u →
      R t u → S (usageOf file source children) (usageOf file source others)) :
    ((forestAttributeNodes trees).map (usageOf file source)).Pairwise S := by
  have hnamed : ∀ children ∈ forestAttributeNodes trees, Named children := by
    obtain ⟨lexemes, -, hparse⟩ := Option.bind_eq_some_iff.1 htrees
    exact named_of_parse? hparse
  have hfirst := List.pairwise_filterMap.1 (htokens _ (standIn_firstTokens htrees))
  refine List.pairwise_map.2 (hfirst.imp_of_mem ?_)
  intro children others hchildren hothers hR
  obtain ⟨t, ht⟩ := (hnamed children hchildren).exists_firstToken?
  obtain ⟨u, hu⟩ := (hnamed others hothers).exists_firstToken?
  exact husages children others t u ht hu (hR t ht u hu)

theorem isBefore_iff (l m : Location) :
    l.IsBefore m ↔ toLex (l.line, l.column) < toLex (m.line, m.column) := by
  rw [Location.IsBefore, Prod.Lex.toLex_lt_toLex]

/-- **The usages of a source come in the order of their places**, also with syntax errors. -/
theorem pairwise_isBefore_usages (file : Path) (source : List Char) (recovery : Recovery) :
    (parseSource file source recovery).usages.Pairwise
      fun u v => u.location.IsBefore v.location := by
  rw [parseSource_eq]
  split
  · exact recovery.inOrder file source
  · next trees htrees =>
    refine pairwise_usages file htrees (fun ts hts => hts.pairwise_position) ?_
    intro children others t u ht hu hlt
    rwa [isBefore_iff, place_usageOf ht, place_usageOf hu]

/-- **The usages of a source stand in its file.** -/
theorem file_of_mem_usages {file : Path} {source : List Char} {recovery : Recovery} {u : Usage}
    (h : u ∈ (parseSource file source recovery).usages) : u.location.file = file := by
  rw [parseSource_eq] at h
  split at h
  · exact recovery.inFile file source u h
  · obtain ⟨trees, -, rfl⟩ := List.mem_map.1 h
    rfl

end DeclaredDebt.CSharp
