import DeclaredDebt.Proofs.AttributePlaces
import DeclaredDebt.Proofs.UsageDebt

/-!
# An attribute goes by the rightmost part of its name

A name is a part, or a name with one more part behind a point or, after an alias, two colons. Every
part is an identifier with type arguments or without. The trees of a name are all its parts in a
row, and the name is built up again from left to right. Type arguments are nodes of their own and
are stepped over as a whole, so nothing that is written in them gets into the name, and what the
attribute goes by is the identifier of the last part.

## Main definitions

* `NamePart`, `WrittenName`: a name as it is written; `WrittenName.trees` are its trees.
* `WrittenName.identifiers`, `WrittenName.rightmost`: its identifiers, and the last of them.
* `AttributeName.parts`: the identifiers that a shape keeps.
* `WellNamed children`: what is in an attribute starts with a name that is written out of parts.
-/

namespace DeclaredDebt

/-- The identifiers that the shape of a name keeps, from left to right. -/
def AttributeName.parts : AttributeName → List String
  | .simple name => [name]
  | .generic name => [name]
  | .qualified segments => segments
  | .aliasQualified root name => [root, name]

namespace CSharp

/-- A part of a name as it is written: an identifier, with type arguments or without. -/
structure NamePart where
  identifier : Token
  typeArguments? : Option (List Tree)
  identifier_ne_nil : identifier.text ≠ []

namespace NamePart

/-- The trees of a part. -/
def trees (p : NamePart) : List Tree :=
  .leaf p.identifier :: (p.typeArguments?.map (Tree.node .typeArguments)).toList

def segment (p : NamePart) : NameSegment := ⟨p.identifier.text, p.typeArguments?.isSome⟩

end NamePart

/-- A name as it is written. -/
inductive WrittenName where
  | part (p : NamePart)
  /-- A name with one more part behind it. The separator is a point, or two colons if the name in
  front is an alias. -/
  | joined (qualifier : WrittenName) (separator : Token) (p : NamePart)

namespace WrittenName

/-- The trees of a name. -/
def trees : WrittenName → List Tree
  | .part p => p.trees
  | .joined qualifier separator p => qualifier.trees ++ .leaf separator :: p.trees

/-- The identifiers of a name outside of its type arguments, from left to right. -/
def identifiers : WrittenName → List String
  | .part p => [String.ofList p.identifier.text]
  | .joined qualifier _ p => qualifier.identifiers ++ [String.ofList p.identifier.text]

/-- The identifier of the last part. -/
def rightmost : WrittenName → String
  | .part p => String.ofList p.identifier.text
  | .joined _ _ p => String.ofList p.identifier.text

/-! ## First part and further parts -/

/-- The first part of a name. -/
def first : WrittenName → NamePart
  | .part p => p
  | .joined qualifier _ _ => qualifier.first

/-- The further parts of a name, each with the separator before it. -/
def further : WrittenName → List (Token × NamePart)
  | .part _ => []
  | .joined qualifier separator p => qualifier.further ++ [(separator, p)]

end WrittenName

/-- The trees of further parts. -/
def furtherTrees (parts : List (Token × NamePart)) : List Tree :=
  parts.flatMap fun part => .leaf part.1 :: part.2.trees

theorem furtherTrees_cons (separator : Token) (p : NamePart) (parts : List (Token × NamePart)) :
    furtherTrees ((separator, p) :: parts) =
      .leaf separator :: (p.trees ++ furtherTrees parts) := rfl

theorem furtherTrees_append (parts more : List (Token × NamePart)) :
    furtherTrees (parts ++ more) = furtherTrees parts ++ furtherTrees more :=
  List.flatMap_append

namespace WrittenName

theorem trees_eq (n : WrittenName) : n.trees = n.first.trees ++ furtherTrees n.further := by
  induction n with
  | part p => exact (List.append_nil _).symm
  | joined qualifier separator p ih =>
    rw [trees, ih, further, furtherTrees_append, List.append_assoc, first, furtherTrees_cons]
    simp [furtherTrees]

theorem identifiers_eq (n : WrittenName) :
    n.identifiers = (n.first.segment :: n.further.map (·.2.segment)).map
      (fun s => String.ofList s.identifier) := by
  induction n with
  | part p => rfl
  | joined qualifier separator p ih => simp [identifiers, ih, first, further, NamePart.segment]

theorem getLast?_identifiers (n : WrittenName) : n.identifiers.getLast? = some n.rightmost := by
  cases n with
  | part p => rfl
  | joined qualifier separator p => simp [identifiers, rightmost]

theorem rightmost_ne (n : WrittenName) : n.rightmost ≠ "" := by
  have hne : ∀ p : NamePart, String.ofList p.identifier.text ≠ "" := by
    intro p h
    exact p.identifier_ne_nil (by simpa using congrArg String.toList h)
  cases n with
  | part p => exact hne p
  | joined qualifier separator p => exact hne p

/-- Any first part with any further parts is a name. -/
theorem exists_trees_eq (p : NamePart) (parts : List (Token × NamePart)) :
    ∃ n : WrittenName, n.trees = p.trees ++ furtherTrees parts := by
  induction parts using List.reverseRecOn with
  | nil => exact ⟨.part p, (List.append_nil _).symm⟩
  | append_singleton parts part ih =>
    obtain ⟨n, hn⟩ := ih
    refine ⟨.joined n part.1 part.2, ?_⟩
    rw [trees, hn, furtherTrees_append, List.append_assoc]
    simp [furtherTrees]

end WrittenName

/-! ## Building a name up again -/

/-- Type arguments belong to the part before them, so what comes behind a part is never taken
for them. -/
theorem nameParts_furtherTrees (parts : List (Token × NamePart)) :
    nameParts (furtherTrees parts) = parts.map fun part => (part.1.text, part.2.segment) := by
  induction parts with
  | nil => rfl
  | cons part parts ih =>
    obtain ⟨separator, ⟨identifier, typeArguments?, hne⟩⟩ := part
    rw [furtherTrees_cons, List.map_cons, ← ih]
    cases typeArguments? with
    | some arguments => rfl
    | none =>
      cases parts with
      | nil => rfl
      | cons next parts => rfl

theorem nameOf?_trees (n : WrittenName) :
    nameOf? n.trees = some ((n.further.map fun part => (part.1.text, part.2.segment)).foldl
      extendName (.segment n.first.segment)) := by
  rw [n.trees_eq, ← nameParts_furtherTrees]
  obtain ⟨identifier, typeArguments?, hne⟩ := n.first
  cases typeArguments? with
  | some arguments => rfl
  | none => cases n.further <;> rfl

namespace NameSyntax

theorem identifiers_extendName (n : NameSyntax) (part : List Char × NameSegment) :
    (extendName n part).identifiers = n.identifiers ++ [part.2.identifier] := by
  obtain ⟨separator, s⟩ := part
  cases n with
  | segment t =>
    rw [extendName]
    split <;> rfl
  | aliased root t => rfl
  | qualified qualifier t => rfl

/-- Building on a name adds the identifiers of the parts, whatever stands between them. -/
theorem identifiers_foldl_extendName (n : NameSyntax) (parts : List (List Char × NameSegment)) :
    (parts.foldl extendName n).identifiers = n.identifiers ++ parts.map (·.2.identifier) := by
  induction parts generalizing n with
  | nil => simp
  | cons part parts ih => simp [ih, identifiers_extendName]

/-- The shape of a name keeps its identifiers. -/
theorem parts_shape (n : NameSyntax) : n.shape.parts = n.identifiers.map String.ofList := by
  cases n with
  | segment s =>
    rw [shape]
    split <;> rfl
  | aliased root s => rfl
  | qualified qualifier s => rfl

end NameSyntax

/-- The last segment of a shape is the last of its parts. -/
theorem lastSegment?_eq (name : AttributeName) : name.lastSegment? = name.parts.getLast? := by
  cases name <;> rfl

/-- The shape of a name that is written has exactly its identifiers, and goes by the last. -/
theorem exists_shape (n : WrittenName) :
    ∃ shape, (nameOf? n.trees).map NameSyntax.shape = some shape ∧ shape.parts = n.identifiers ∧
      shape.simpleName? = some n.rightmost := by
  refine ⟨_, congrArg (Option.map NameSyntax.shape) (nameOf?_trees n), ?_⟩
  set built := (n.further.map fun part => (part.1.text, part.2.segment)).foldl
    extendName (.segment n.first.segment)
  have hparts : built.shape.parts = n.identifiers := by
    rw [NameSyntax.parts_shape, NameSyntax.identifiers_foldl_extendName, n.identifiers_eq]
    simp [NameSyntax.identifiers, Function.comp_def]
  refine ⟨hparts, ?_⟩
  rw [AttributeName.simpleName?, lastSegment?_eq, hparts, n.getLast?_identifiers]
  simp [n.rightmost_ne]

/-! ## Names of the attributes of a source -/

/-- Whether a rule reads a name part by part, before anything else. -/
def readsName : Rule Symbol → Bool
  | .seq (.node .name (.seq (.token .anyWord) (.seq (.alt (.call .typeArguments) .done)
      (.many (.seq (.alt (.token (.symbol _)) (.token (.symbol _)))
        (.seq (.token .anyWord) (.alt (.call .typeArguments) .done))))))) _ => true
  | _ => false

/-- Every attribute of the grammar reads its name part by part. -/
theorem readsName_of_mem_nodes {s : Symbol} {n : NodeKind × Rule Symbol}
    (hn : n ∈ (grammar s).nodes) (hkind : n.1 = .attribute) : readsName n.2 = true := by
  have hall : (grammar s).nodes.all (fun n => n.1 != .attribute || readsName n.2) = true := by
    cases s <;> decide +kernel
  simpa [hkind] using List.all_eq_true.1 hall n hn

/-- All tokens have characters. -/
def Visible (ts : List Token) : Prop := ∀ t ∈ ts, t.text ≠ []

section Reading

variable {depth : ℕ} {ts rest : List Token} {trees : List Tree}

/-- What is left behind a reading is visible if all was. -/
theorem Visible.of_run {a : Rule Symbol} (hts : Visible ts)
    (h : a.run (runSymbol grammar depth) ts = some (trees, rest)) : Visible rest := by
  have hleaves : forestLeaves trees ++ rest = ts := by
    refine readingLaw_forestLeaves.run (fun s => ?_) a ?_ ts trees rest h
    · refine readingLaw_forestLeaves.runSymbol ?_ depth s
      intro s n hn depth ts trees rest _ hkept
      simpa [forestLeaves, Tree.leaves] using hkept
    · intro n hn ts trees rest _ hkept
      simpa [forestLeaves, Tree.leaves] using hkept
  intro t ht
  exact hts t (hleaves ▸ List.mem_append_right _ ht)

theorem run_typeArguments
    (h : (Rule.alt (.call .typeArguments) .done).run (runSymbol grammar depth) ts =
      some (trees, rest)) :
    ∃ arguments? : Option (List Tree),
      trees = (arguments?.map (Tree.node .typeArguments)).toList := by
  rw [Rule.run] at h
  split at h
  · next result hcall =>
    cases h
    cases depth with
    | zero => cases hcall
    | succ depth =>
      have hnode : (Rule.node .typeArguments _).run (runSymbol grammar depth) ts =
        some (trees, rest) := hcall
      obtain ⟨inner, -, rfl⟩ := Rule.run_node_eq_some_iff.1 hnode
      exact ⟨some inner, rfl⟩
  · cases h
    exact ⟨none, rfl⟩

theorem run_separator {a b : String} {symbol : Symbol → Reader}
    (h : (Rule.alt (.token (.symbol a)) (.token (.symbol b))).run symbol ts =
      some (trees, rest)) :
    ∃ t, ts = t :: rest ∧ trees = [.leaf t] := by
  rw [Rule.run] at h
  split at h
  · next result hfirst =>
    cases h
    obtain ⟨t, hts, -, htrees⟩ := Rule.run_token_eq_some_iff.1 hfirst
    exact ⟨t, hts, htrees⟩
  · obtain ⟨t, hts, -, htrees⟩ := Rule.run_token_eq_some_iff.1 h
    exact ⟨t, hts, htrees⟩

/-- Further parts of a name are read one by one. -/
theorem obeys_further {a b : String} :
    Obeys (fun ts trees rest => Visible ts → Visible rest ∧ ∃ parts, trees = furtherTrees parts)
      ((Rule.seq (.alt (.token (.symbol a)) (.token (.symbol b)))
        (.seq (.token .anyWord) (.alt (.call .typeArguments) .done))).run
          (runSymbol grammar depth)) := by
  intro ts trees rest h hts
  refine ⟨hts.of_run h, ?_⟩
  obtain ⟨first, behind, others, hseparator, hpart, rfl⟩ := Rule.run_seq_eq_some_iff.1 h
  obtain ⟨separator, rfl, rfl⟩ := run_separator hseparator
  obtain ⟨word, behind', more, hword, harguments, rfl⟩ := Rule.run_seq_eq_some_iff.1 hpart
  obtain ⟨t, rfl, -, rfl⟩ := Rule.run_token_eq_some_iff.1 hword
  obtain ⟨arguments?, rfl⟩ := run_typeArguments harguments
  have hne : t.text ≠ [] := hts t (by simp)
  refine ⟨[(separator, ⟨t, arguments?, hne⟩)], ?_⟩
  simp [furtherTrees, NamePart.trees]

/-- What is in an attribute starts with a name that is written out of parts. -/
def WellNamed (children : List Tree) : Prop :=
  ∃ (n : WrittenName) (others : List Tree), children = .node .name n.trees :: others

theorem wellNamed_of_readsName {a : Rule Symbol} (ha : readsName a = true) (hts : Visible ts)
    (h : a.run (runSymbol grammar depth) ts = some (trees, rest)) : WellNamed trees := by
  unfold readsName at ha
  split at ha
  · obtain ⟨name, behind, others, hname, -, rfl⟩ := Rule.run_seq_eq_some_iff.1 h
    obtain ⟨inner, hinner, rfl⟩ := Rule.run_node_eq_some_iff.1 hname
    obtain ⟨word, behind', more, hword, hmore, rfl⟩ := Rule.run_seq_eq_some_iff.1 hinner
    obtain ⟨t, rfl, -, rfl⟩ := Rule.run_token_eq_some_iff.1 hword
    obtain ⟨arguments, behind'', last, harguments, hfurther, rfl⟩ :=
      Rule.run_seq_eq_some_iff.1 hmore
    have hne : t.text ≠ [] := hts t (by simp)
    have hbehind : Visible behind'' := (hts.of_run hword).of_run harguments
    obtain ⟨arguments?, rfl⟩ := run_typeArguments harguments
    obtain ⟨-, parts, rfl⟩ : Visible behind ∧ ∃ parts, last = furtherTrees parts := by
      refine Obeys.readMany ?_ ?_ obeys_further _ _ _ _ hfurther hbehind
      · intro ts hts
        exact ⟨hts, [], rfl⟩
      · intro ts trees behind more rest hfirst hmore hts
        obtain ⟨hbehind, parts, rfl⟩ := hfirst hts
        obtain ⟨hrest, parts', rfl⟩ := hmore hbehind
        exact ⟨hrest, parts ++ parts', (furtherTrees_append parts parts').symm⟩
    obtain ⟨n, hn⟩ := WrittenName.exists_trees_eq ⟨t, arguments?, hne⟩ parts
    refine ⟨n, others, ?_⟩
    rw [hn]
    rfl
  · cases ha

end Reading

theorem StandIn.visible {offset : ℕ} {text : List Char} {ts : List Token}
    (h : StandIn offset text ts) : Visible ts := by
  induction h with
  | nil => simp [Visible]
  | cons gap after hstart hne hafter ih =>
    intro t ht
    rcases List.mem_cons.1 ht with rfl | ht
    · exact hne
    · exact ih t ht

/-- **Every attribute of a source has a name that is written out of parts.** -/
theorem wellNamed_of_treesOf? {source : List Char} {trees : List Tree}
    (h : treesOf? source = some trees) :
    ∀ children ∈ forestAttributeNodes trees, WellNamed children := by
  obtain ⟨lexemes, hlexemes, hparse⟩ := Option.bind_eq_some_iff.1 h
  refine forall_attributeNodes_of_parse? ?_ (standIn_tokens hlexemes).visible hparse
  intro s n hn hkind depth ts trees rest hts hrun
  exact wellNamed_of_readsName (readsName_of_mem_nodes hn hkind) hts hrun

/-! ## The name that an attribute goes by -/

/-- The usage of an attribute has the shape of its name. -/
theorem exists_shape_usageOf (n : WrittenName) (others : List Tree) (file : Path)
    (source : List Char) :
    ∃ shape, (usageOf file source (.node .name n.trees :: others)).name? = some shape ∧
      shape.parts = n.identifiers ∧ shape.simpleName? = some n.rightmost :=
  exists_shape n

theorem resolvedName_usageOf (n : WrittenName) (others : List Tree) (file : Path)
    (source : List Char) :
    (usageOf file source (.node .name n.trees :: others)).resolvedName = .ok n.rightmost := by
  obtain ⟨shape, hshape, -, hsimple⟩ := exists_shape_usageOf n others file source
  rw [Usage.resolvedName, hshape, Option.bind_some, hsimple]

/-- **An attribute goes by the rightmost part of its name.** In a source that can be read, every
attribute starts with a name that is written out of parts. The shape of that name has the
identifiers of the parts and no others, and goes by the last. Usages whose names end in the same
identifier, with whatever qualifiers, aliases and type arguments, declare the same with the same
arguments. -/
theorem attribute_goes_by_rightmost :
    (∀ (source : List Char) (trees : List Tree), treesOf? source = some trees →
      ∀ children ∈ forestAttributeNodes trees, ∃ (n : WrittenName) (others : List Tree),
        children = .node .name n.trees :: others) ∧
    (∀ (n : WrittenName) (others : List Tree) (file : Path) (source : List Char),
      ∃ shape, (usageOf file source (.node .name n.trees :: others)).name? = some shape ∧
        shape.parts = n.identifiers ∧ shape.simpleName? = some n.rightmost) ∧
    ∀ (n m : WrittenName) (others others' : List Tree) (file file' : Path)
      (source source' : List Char), n.rightmost = m.rightmost →
      (usageOf file source (.node .name n.trees :: others)).arguments =
        (usageOf file' source' (.node .name m.trees :: others')).arguments →
      (usageOf file source (.node .name n.trees :: others)).resolvedName = .ok n.rightmost ∧
      (usageOf file' source' (.node .name m.trees :: others')).resolvedName = .ok n.rightmost ∧
      (usageOf file source (.node .name n.trees :: others)).declared? =
        (usageOf file' source' (.node .name m.trees :: others')).declared? := by
  refine ⟨fun source trees h => wellNamed_of_treesOf? h, exists_shape_usageOf, ?_⟩
  intro n m others others' file file' source source' hrightmost harguments
  have hn := resolvedName_usageOf n others file source
  have hm := resolvedName_usageOf m others' file' source'
  rw [← hrightmost] at hm
  exact ⟨hn, hm, Usage.declared?_congr hn hm harguments⟩

/-- The name `ManualTechnicalDebt`. -/
def plainName : WrittenName := .part ⟨⟨.word, "ManualTechnicalDebt".toList, 1, []⟩, none, by decide⟩

/-- The name `global::Debts<Other>.ManualTechnicalDebt<Other>`. -/
def longName : WrittenName :=
  let arguments := some [.leaf ⟨.symbol, ['<'], 0, []⟩, .leaf ⟨.word, "Other".toList, 0, []⟩,
    .leaf ⟨.symbol, ['>'], 0, []⟩]
  .joined (.joined (.part ⟨⟨.word, "global".toList, 1, []⟩, none, by decide⟩)
    ⟨.symbol, "::".toList, 7, []⟩ ⟨⟨.word, "Debts".toList, 9, []⟩, arguments, by decide⟩)
    ⟨.symbol, ['.'], 21, []⟩ ⟨⟨.word, "ManualTechnicalDebt".toList, 22, []⟩, arguments, by decide⟩

/-- The arguments `(SqaleRemediationDaysEffort=3)`. -/
def threeDays : List Tree :=
  [.node .argumentList [.node .argument
    [.leaf ⟨.word, "SqaleRemediationDaysEffort".toList, 21, []⟩, .leaf ⟨.symbol, ['='], 47, []⟩,
      .leaf ⟨.integer, ['3'], 48, []⟩]]]

set_option maxRecDepth 100000 in
theorem longName_declares_three_days :
    longName.identifiers = ["global", "Debts", "ManualTechnicalDebt"] ∧
    (usageOf ⟨"Debt.cs"⟩ [] (.node .name longName.trees :: threeDays)).declared? =
      some (some ("ManualTechnicalDebt", 3)) ∧
    ∃ trees, treesOf? "[A.B<C>]class D;".toList = some trees ∧
      (forestAttributeNodes trees).length = 1 ∧
      ∀ children ∈ forestAttributeNodes trees, ∃ (n : WrittenName) (others : List Tree),
        children = .node .name n.trees :: others := by
  obtain ⟨hparsed, -, hdeclared⟩ := attribute_goes_by_rightmost
  have hplain : (usageOf ⟨"Debt.cs"⟩ [] (.node .name plainName.trees :: threeDays)).declared? =
      some (some ("ManualTechnicalDebt", 3)) := by decide +kernel
  have hone : (treesOf? "[A.B<C>]class D;".toList).map (fun trees =>
      (forestAttributeNodes trees).length) = some 1 := by decide +kernel
  obtain ⟨trees, htrees, hlength⟩ := Option.map_eq_some_iff.1 hone
  refine ⟨by decide, ?_, trees, htrees, hlength, hparsed _ _ htrees⟩
  rw [← hplain]
  exact (hdeclared longName plainName threeDays threeDays ⟨"Debt.cs"⟩ ⟨"Debt.cs"⟩ [] [] (by decide)
    rfl).2.2

end CSharp

end DeclaredDebt
