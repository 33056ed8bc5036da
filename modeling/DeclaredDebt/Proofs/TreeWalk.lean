import DeclaredDebt.CSharp.Attribute
import Mathlib

/-!
# A walk over a tree finds every attribute once

The loop that collects the attributes of a tree keeps no record of where it has been: it goes down
where it can, on to the next sibling where it cannot, and back up where there is none. It ends all
the same, and it has then been at every node once, in the order of the source.

The argument follows the tree. If everything behind a node adds certain nodes to what was found,
then a walk from the node on adds the attributes at and below it, and then those. Behind the last
child of a node comes what is behind the node itself, and behind the root comes nothing.

## Main definitions

* `Tree.at?`: the node at an address.
* `Tree.nodesFrom`: all nodes with their addresses, each before those below it.
* `Cursor.Follows`: a cursor moves over a tree as its moves are named.
-/

namespace DeclaredDebt.CSharp

/-! ## Addresses -/

/-- The node at an address, which says the child to go to at each step from the root. -/
def Tree.at? : Tree → List ℕ → Option Tree
  | t, [] => some t
  | t, i :: rest => t.children[i]?.bind (·.at? rest)

mutual
/-- The nodes of a tree with their addresses, each before those below it. The address of the tree
itself is given. -/
def Tree.nodesFrom (p : List ℕ) : Tree → List (List ℕ × Tree)
  | .leaf t => [(p, .leaf t)]
  | .node kind children => (p, .node kind children) :: forestNodesFrom p 0 children

/-- The nodes of some trees with their addresses. The trees are children of one node, from a certain
child on. -/
def forestNodesFrom (p : List ℕ) (i : ℕ) : List Tree → List (List ℕ × Tree)
  | [] => []
  | t :: rest => t.nodesFrom (p ++ [i]) ++ forestNodesFrom p (i + 1) rest
end

namespace Tree

/-- What holds of a tree if it holds of all its children holds of every tree. -/
theorem children_induction {motive : Tree → Prop}
    (step : ∀ t, (∀ child ∈ t.children, motive child) → motive t) (t : Tree) : motive t := by
  refine step t ?_
  intro child hchild
  have hsize : sizeOf child < sizeOf t := by
    cases t with
    | leaf token => simp [children] at hchild
    | node kind trees =>
      have hlt := List.sizeOf_lt_of_mem (show child ∈ trees from hchild)
      simp only [node.sizeOf_spec]
      omega
  exact children_induction step child
termination_by sizeOf t

theorem at?_append (root : Tree) (p q : List ℕ) :
    root.at? (p ++ q) = (root.at? p).bind (·.at? q) := by
  induction p generalizing root with
  | nil => rfl
  | cons i p ih =>
    cases hchild : root.children[i]? with
    | none => simp [Tree.at?, hchild]
    | some child => simp [Tree.at?, hchild, ih]

/-- The addresses right below a node are those of its children. -/
theorem at?_child {root n : Tree} {p : List ℕ} (hp : root.at? p = some n) (i : ℕ) :
    root.at? (p ++ [i]) = n.children[i]? := by
  rw [at?_append, hp]
  cases hchild : n.children[i]? <;> simp [Tree.at?, hchild]

theorem nodesFrom_eq (p : List ℕ) (t : Tree) :
    t.nodesFrom p = (p, t) :: forestNodesFrom p 0 t.children := by
  cases t <;> simp [nodesFrom, children, forestNodesFrom]

theorem isAttribute_iff {t : Tree} :
    t.isAttribute = true ↔ ∃ children, t = .node .attribute children := by
  unfold isAttribute
  split <;> simp_all

end Tree

/-- What is listed for some trees is listed for one of them. -/
theorem mem_forestNodesFrom {trees : List Tree} {p : List ℕ} {i : ℕ} {a : List ℕ × Tree} :
    a ∈ forestNodesFrom p i trees ↔
      ∃ (j : ℕ) (child : Tree), trees[j]? = some child ∧ a ∈ child.nodesFrom (p ++ [i + j]) := by
  induction trees generalizing i with
  | nil => simp [forestNodesFrom]
  | cons t rest ih =>
    rw [forestNodesFrom, List.mem_append, ih]
    constructor
    · rintro (h | ⟨j, child, hchild, h⟩)
      · exact ⟨0, t, rfl, h⟩
      · refine ⟨j + 1, child, hchild, ?_⟩
        rwa [show i + (j + 1) = i + 1 + j by omega]
    · rintro ⟨j, child, hchild, h⟩
      cases j with
      | zero =>
        obtain rfl : t = child := by simpa using hchild
        exact .inl h
      | succ j =>
        refine .inr ⟨j, child, by simpa using hchild, ?_⟩
        rwa [show i + 1 + j = i + (j + 1) by omega]

/-- **All nodes are listed, each with its own address.** -/
theorem Tree.mem_nodesFrom (t : Tree) {p q : List ℕ} {n : Tree} :
    (q, n) ∈ t.nodesFrom p ↔ ∃ r, q = p ++ r ∧ t.at? r = some n := by
  induction t using Tree.children_induction generalizing p with
  | step t ih =>
    rw [nodesFrom_eq, List.mem_cons, mem_forestNodesFrom, Prod.mk.injEq]
    constructor
    · rintro (⟨rfl, rfl⟩ | ⟨j, child, hchild, h⟩)
      · exact ⟨[], by simp, rfl⟩
      · obtain ⟨r, rfl, hr⟩ := (ih child (List.mem_of_getElem? hchild)).1 h
        exact ⟨j :: r, by simp, by simp [Tree.at?, hchild, hr]⟩
    · rintro ⟨r, rfl, hr⟩
      cases r with
      | nil => exact .inl ⟨by simp, (Option.some.inj hr).symm⟩
      | cons j r =>
        obtain ⟨child, hchild, hr⟩ := Option.bind_eq_some_iff.1 hr
        exact .inr ⟨j, child, hchild, (ih child (List.mem_of_getElem? hchild)).2
          ⟨r, by simp, hr⟩⟩

/-- The nodes of trees that are listed in the order of the source are listed so for all of them. -/
theorem pairwise_forestNodesFrom {trees : List Tree}
    (h : ∀ t ∈ trees, ∀ p, (t.nodesFrom p).Pairwise fun a b => a.1 < b.1) (p : List ℕ) (i : ℕ) :
    (forestNodesFrom p i trees).Pairwise fun a b => a.1 < b.1 := by
  induction trees generalizing i with
  | nil => exact .nil
  | cons t rest ih =>
    rw [forestNodesFrom, List.pairwise_append]
    refine ⟨h t (by simp) _, ih (fun t ht => h t (by simp [ht])) (i + 1), ?_⟩
    rintro ⟨q, n⟩ hq ⟨q', n'⟩ hq'
    obtain ⟨r, rfl, -⟩ := (Tree.mem_nodesFrom t).1 hq
    obtain ⟨j, child, -, hq'⟩ := mem_forestNodesFrom.1 hq'
    obtain ⟨r', rfl, -⟩ := (Tree.mem_nodesFrom child).1 hq'
    rw [List.append_assoc, List.append_assoc]
    refine List.append_left_lt (List.cons_lt_cons_iff.2 (.inl ?_))
    omega

/-- **Nodes are listed in the order of the source**: an address comes before the longer ones that
start with it, and before those that branch off to a later child. -/
theorem Tree.pairwise_nodesFrom (t : Tree) (p : List ℕ) :
    (t.nodesFrom p).Pairwise fun a b => a.1 < b.1 := by
  induction t using Tree.children_induction generalizing p with
  | step t ih =>
    rw [nodesFrom_eq, List.pairwise_cons]
    refine ⟨?_, pairwise_forestNodesFrom ih p 0⟩
    rintro ⟨q, n⟩ hq
    obtain ⟨j, child, -, hq⟩ := mem_forestNodesFrom.1 hq
    obtain ⟨r, rfl, -⟩ := (Tree.mem_nodesFrom child).1 hq
    have hlonger : p ++ [] < p ++ (0 + j) :: r := List.append_left_lt (List.nil_lt_cons _ _)
    simpa using hlonger

/-! ## Cursors -/

/-- A cursor moves over a tree as its moves are named. A state stands at an address, and says which
node is there. A move to a first child, a next sibling or a parent gets there if there is one, and
leads nowhere if there is none; a root has neither siblings nor a parent. -/
structure Cursor.Follows {σ ν : Type} (c : Cursor σ ν) (wanted : ν → Bool) (root : Tree)
    (nodeOf : List ℕ → ν) (stands : σ → List ℕ → Prop) : Prop where
  inside : ∀ {s p}, stands s p → root.at? p ≠ none
  node : ∀ {s p}, stands s p → c.node s = nodeOf p
  wanted : ∀ {p n}, root.at? p = some n → wanted (nodeOf p) = n.isAttribute
  firstChild : ∀ {s p}, stands s p → root.at? (p ++ [0]) ≠ none →
    ∃ s', c.firstChild? s = some s' ∧ stands s' (p ++ [0])
  noChild : ∀ {s p}, stands s p → root.at? (p ++ [0]) = none → c.firstChild? s = none
  nextSibling : ∀ {s p i}, stands s (p ++ [i]) → root.at? (p ++ [i + 1]) ≠ none →
    ∃ s', c.nextSibling? s = some s' ∧ stands s' (p ++ [i + 1])
  noSibling : ∀ {s p i}, stands s (p ++ [i]) → root.at? (p ++ [i + 1]) = none →
    c.nextSibling? s = none
  parent : ∀ {s p i}, stands s (p ++ [i]) → ∃ s', c.parent? s = some s' ∧ stands s' p
  rootAlone : ∀ {s}, stands s [] → c.nextSibling? s = none ∧ c.parent? s = none

namespace Cursor

variable {σ ν : Type} {c : Cursor σ ν} {wanted : ν → Bool} {s s' : σ} {found : Array ν}

/-- What is left of a walk once everything below a node is done. -/
def resume (c : Cursor σ ν) (wanted : ν → Bool) (s : σ) (found : Array ν) : Option (Array ν) :=
  match c.onward s with
  | some (some next) => c.collect wanted next found
  | some none => some found
  | none => none

theorem resume_next (h : c.nextSibling? s = some s') :
    c.resume wanted s found = c.collect wanted s' found := by
  simp [resume, onward, h]

theorem resume_up (hnext : c.nextSibling? s = none) (hup : c.parent? s = some s') :
    c.resume wanted s found = c.resume wanted s' found := by
  rw [resume, onward, hnext, hup]
  rfl

theorem resume_end (hnext : c.nextSibling? s = none) (hup : c.parent? s = none) :
    c.resume wanted s found = some found := by
  simp [resume, onward, hnext, hup]

theorem collect_down (h : c.firstChild? s = some s') :
    c.collect wanted s found =
      c.collect wanted s' (if wanted (c.node s) then found.push (c.node s) else found) := by
  rw [collect, h]

theorem collect_on (h : c.firstChild? s = none) :
    c.collect wanted s found =
      c.resume wanted s (if wanted (c.node s) then found.push (c.node s) else found) := by
  rw [collect, h]
  rfl

/-- The nodes that a walk over some nodes takes. -/
def taken (nodeOf : List ℕ → ν) (nodes : List (List ℕ × Tree)) : Array ν :=
  ((nodes.filter (·.2.isAttribute)).map (nodeOf ·.1)).toArray

theorem taken_nil (nodeOf : List ℕ → ν) : taken nodeOf [] = #[] := rfl

theorem taken_append (nodeOf : List ℕ → ν) (nodes more : List (List ℕ × Tree)) :
    taken nodeOf (nodes ++ more) = taken nodeOf nodes ++ taken nodeOf more := by
  simp [taken]

namespace Follows

variable {root : Tree} {nodeOf : List ℕ → ν} {stands : σ → List ℕ → Prop}

/-- A node is taken where a walk gets to it. -/
theorem push_eq (h : c.Follows wanted root nodeOf stands) {p : List ℕ} {n : Tree}
    (hs : stands s p) (hp : root.at? p = some n) :
    (if wanted (c.node s) then found.push (c.node s) else found) =
      found ++ taken nodeOf [(p, n)] := by
  rw [h.node hs, h.wanted hp]
  cases hn : n.isAttribute <;> simp [taken, hn]

/-- A walk from a child on takes what is at and below this child and those behind it, if it does so
at every one of them, and then what comes behind their parent. -/
theorem collect_forest (h : c.Follows wanted root nodeOf stands) {p : List ℕ} {n : Tree}
    (hp : root.at? p = some n) {rest : Array ν}
    (hrest : ∀ {s found}, stands s p → c.resume wanted s found = some (found ++ rest))
    {trees : List Tree}
    (htrees : ∀ t ∈ trees, ∀ {q : List ℕ} {s : σ} {found rest : Array ν}, stands s q →
      root.at? q = some t →
      (∀ {s found}, stands s q → c.resume wanted s found = some (found ++ rest)) →
      c.collect wanted s found = some (found ++ taken nodeOf (t.nodesFrom q) ++ rest))
    {i : ℕ} (hne : trees ≠ []) (hdrop : n.children.drop i = trees) (hs : stands s (p ++ [i])) :
    c.collect wanted s found =
      some (found ++ taken nodeOf (forestNodesFrom p i trees) ++ rest) := by
  induction trees generalizing i s found with
  | nil => exact absurd rfl hne
  | cons t more ih =>
    have hat : ∀ j, root.at? (p ++ [i + j]) = (t :: more)[j]? := by
      intro j
      rw [Tree.at?_child hp, ← hdrop, List.getElem?_drop]
    rw [forestNodesFrom, taken_append, ← Array.append_assoc, Array.append_assoc]
    refine htrees t (by simp) hs (hat 0) ?_
    intro s found hs
    cases more with
    | nil =>
      obtain ⟨up, hup, hstands⟩ := h.parent hs
      rw [resume_up (h.noSibling hs (hat 1)) hup, hrest hstands, forestNodesFrom, taken_nil,
        Array.empty_append]
    | cons next more =>
      obtain ⟨s', hs', hstands⟩ := h.nextSibling hs (by simp [hat 1])
      rw [resume_next hs', ← Array.append_assoc]
      refine ih (fun t ht => htrees t (by simp [ht])) (by simp) ?_ hstands
      rw [← List.drop_drop, hdrop]
      rfl

/-- **A walk from a node on takes the attributes at and below it**, and then what comes behind. -/
theorem collect_node (h : c.Follows wanted root nodeOf stands) (n : Tree) {p : List ℕ}
    {rest : Array ν} (hs : stands s p) (hp : root.at? p = some n)
    (hrest : ∀ {s found}, stands s p → c.resume wanted s found = some (found ++ rest)) :
    c.collect wanted s found = some (found ++ taken nodeOf (n.nodesFrom p) ++ rest) := by
  induction n using Tree.children_induction generalizing p s found rest with
  | step n ih =>
    have hchild := Tree.at?_child hp 0
    have hsplit : taken nodeOf (n.nodesFrom p) =
        taken nodeOf [(p, n)] ++ taken nodeOf (forestNodesFrom p 0 n.children) := by
      rw [← taken_append, Tree.nodesFrom_eq]
      rfl
    rw [hsplit, ← Array.append_assoc]
    cases hchildren : n.children with
    | nil =>
      rw [collect_on (h.noChild hs (by simp [hchild, hchildren])), h.push_eq hs hp, hrest hs,
        forestNodesFrom, taken_nil, Array.append_empty]
    | cons t more =>
      obtain ⟨s', hs', hstands⟩ := h.firstChild hs (by simp [hchild, hchildren])
      rw [collect_down hs', h.push_eq hs hp, ← hchildren]
      exact h.collect_forest hp hrest (fun t ht => ih t ht) (by simp [hchildren]) rfl hstands

/-- A walk from the root on takes all attributes and ends. -/
theorem collect_root (h : c.Follows wanted root nodeOf stands) (hs : stands s []) :
    c.collect wanted s #[] = some (taken nodeOf (root.nodesFrom [])) := by
  have hend : ∀ {s found}, stands s [] → c.resume wanted s found = some (found ++ #[]) := by
    intro s found hs
    obtain ⟨hnext, hup⟩ := h.rootAlone hs
    rw [resume_end hnext hup, Array.append_empty]
  rw [h.collect_node root hs rfl hend, Array.append_empty, Array.empty_append]

end Follows

end Cursor

/-- **A walk over a tree ends, and finds its attributes, each once and in the order of the source.**
Whatever cursor moves over the tree as its moves are named, the loop answers with the nodes at a
strictly increasing list of addresses: those where an attribute stands, also below other
attributes. -/
theorem walk_finds_attributes_once {σ ν : Type} {c : Cursor σ ν} {wanted : ν → Bool} {root : Tree}
    {nodeOf : List ℕ → ν} {stands : σ → List ℕ → Prop}
    (h : c.Follows wanted root nodeOf stands) {s : σ} (hs : stands s []) :
    ∃ addresses : List (List ℕ),
      c.collect wanted s #[] = some (addresses.map nodeOf).toArray ∧
      addresses.Pairwise (· < ·) ∧
      ∀ p, p ∈ addresses ↔ ∃ children, root.at? p = some (.node .attribute children) := by
  refine ⟨((root.nodesFrom []).filter (·.2.isAttribute)).map Prod.fst, ?_, ?_, ?_⟩
  · rw [h.collect_root hs, Cursor.taken, List.map_map]
    rfl
  · rw [List.pairwise_map]
    exact (root.pairwise_nodesFrom []).filter _
  · intro p
    simp only [List.mem_map, List.mem_filter, Prod.exists, exists_and_right, exists_eq_right,
      Tree.mem_nodesFrom, List.nil_append, exists_eq_left']
    constructor
    · rintro ⟨n, hn, hattribute⟩
      obtain ⟨children, rfl⟩ := Tree.isAttribute_iff.1 hattribute
      exact ⟨children, hn⟩
    · rintro ⟨children, hn⟩
      exact ⟨_, hn, rfl⟩

/-! ## The attributes of a source -/

/-- A position stands at an address: at the root, or as far among the children of the position above
as the address says. -/
inductive Position.StandsAt (root : Tree) : Position → List ℕ → Prop
  | root : StandsAt root { node := root } []
  | child {up : Position} {p : List ℕ} {i : ℕ} {t : Tree} {later : List Tree} :
    StandsAt root up p → up.node.children.drop i = t :: later →
      StandsAt root ⟨t, later, (up.node, up.later) :: up.above⟩ (p ++ [i])

namespace Position.StandsAt

variable {root : Tree} {s : Position} {p : List ℕ}

theorem at?_eq (h : StandsAt root s p) : root.at? p = some s.node := by
  induction h with
  | root => rfl
  | @child up p i t later _ hdrop ih =>
    have hchild : up.node.children[i]? = some t := by
      rw [← List.head?_drop, hdrop]
      rfl
    rw [Tree.at?_child ih, hchild]

/-- A position below the root stands behind one above it. -/
theorem exists_up {i : ℕ} (h : StandsAt root s (p ++ [i])) :
    ∃ up, StandsAt root up p ∧ up.node.children.drop i = s.node :: s.later ∧
      s.above = (up.node, up.later) :: up.above := by
  generalize hq : p ++ [i] = q at h
  cases h with
  | root => simp at hq
  | @child up _ _ t later hup hdrop =>
    obtain ⟨rfl, hi⟩ := List.append_inj' hq rfl
    obtain rfl := List.singleton_inj.1 hi
    exact ⟨up, hup, hdrop, rfl⟩

end Position.StandsAt

/-- The cursor over positions moves as its moves are named. -/
theorem Position.follows_cursor (root : Tree) :
    cursor.Follows Tree.isAttribute root (fun p => (root.at? p).getD root) (StandsAt root) where
  inside h := by simp [h.at?_eq]
  node h := by simp [h.at?_eq, cursor]
  wanted hp := by simp [hp]
  firstChild {s p} h hchild := by
    rw [Tree.at?_child h.at?_eq] at hchild
    cases hchildren : s.node.children with
    | nil => simp [hchildren] at hchild
    | cons t later =>
      refine ⟨⟨t, later, (s.node, s.later) :: s.above⟩, ?_, .child h (by simpa using hchildren)⟩
      simp [cursor, firstChild?, hchildren]
  noChild {s p} h hchild := by
    rw [Tree.at?_child h.at?_eq] at hchild
    have hchildren : s.node.children = [] := by simpa using hchild
    simp [cursor, firstChild?, hchildren]
  nextSibling {s p i} h hnext := by
    obtain ⟨up, hup, hdrop, habove⟩ := h.exists_up
    rw [Tree.at?_child hup.at?_eq, ← List.getElem?_drop, hdrop] at hnext
    cases hlater : s.later with
    | nil => simp [hlater] at hnext
    | cons t later =>
      have hdrop' : up.node.children.drop (i + 1) = t :: later := by
        rw [← List.drop_drop, hdrop, hlater]
        rfl
      refine ⟨⟨t, later, s.above⟩, by simp [cursor, nextSibling?, hlater], ?_⟩
      rw [habove]
      exact .child hup hdrop'
  noSibling {s p i} h hnext := by
    obtain ⟨up, hup, hdrop, -⟩ := h.exists_up
    rw [Tree.at?_child hup.at?_eq, ← List.getElem?_drop, hdrop] at hnext
    have hlater : s.later = [] := by simpa using hnext
    simp [cursor, nextSibling?, hlater]
  parent {s p i} h := by
    obtain ⟨up, hup, -, habove⟩ := h.exists_up
    exact ⟨up, by simp [cursor, parent?, habove], hup⟩
  rootAlone {s} h := by
    generalize hq : ([] : List ℕ) = q at h
    cases h with
    | root => exact ⟨rfl, rfl⟩
    | child _ _ => simp at hq

/-- An attribute with some arguments. -/
def attributeWith (arguments : List Tree) : Tree :=
  let list := Tree.node .argumentList (arguments.map fun t => .node .argument [t])
  .node .attribute (.node .name [] :: [list])

/-- A tree with an attribute inside an attribute, and one behind both. -/
def nestedTree : Tree :=
  .node .compilationUnit [attributeWith [attributeWith []], .node .name [], attributeWith []]

theorem nestedTree_attributes_found_once :
    ∃ addresses : List (List ℕ),
      Position.cursor.collect Tree.isAttribute { node := nestedTree } #[] =
        some (addresses.map fun p => (nestedTree.at? p).getD nestedTree).toArray ∧
      addresses.Pairwise (· < ·) ∧ [0] ∈ addresses ∧ [0, 1, 0, 0] ∈ addresses ∧ [2] ∈ addresses ∧
      [1] ∉ addresses := by
  obtain ⟨addresses, hfound, hordered, hmem⟩ :=
    walk_finds_attributes_once (Position.follows_cursor nestedTree) .root
  refine ⟨addresses, hfound, hordered, (hmem _).2 ⟨_, rfl⟩, (hmem _).2 ⟨_, rfl⟩,
    (hmem _).2 ⟨_, rfl⟩, ?_⟩
  rw [hmem]
  rintro ⟨children, h⟩
  cases h

theorem Tree.attributes_eq (root : Tree) :
    root.attributes = ((root.nodesFrom []).filter (·.2.isAttribute)).map Prod.snd := by
  rw [attributes, (Position.follows_cursor root).collect_root .root, Option.getD_some, Cursor.taken]
  refine List.map_congr_left ?_
  rintro ⟨p, n⟩ hn
  obtain ⟨r, rfl, hr⟩ := (mem_nodesFrom root).1 (List.mem_of_mem_filter hn)
  simp [hr]

theorem Tree.attributeNodes_eq (t : Tree) :
    t.attributeNodes =
      (if t.isAttribute then [t.children] else []) ++ forestAttributeNodes t.children := by
  cases t with
  | leaf token => rfl
  | node kind children =>
    cases kind <;> simp [attributeNodes, isAttribute, Tree.children]

theorem map_children_forestNodesFrom {trees : List Tree}
    (h : ∀ t ∈ trees, ∀ p, ((t.nodesFrom p).filter (·.2.isAttribute)).map (·.2.children) =
      t.attributeNodes) (p : List ℕ) (i : ℕ) :
    ((forestNodesFrom p i trees).filter (·.2.isAttribute)).map (·.2.children) =
      forestAttributeNodes trees := by
  induction trees generalizing i with
  | nil => rfl
  | cons t rest ih =>
    rw [forestNodesFrom, List.filter_append, List.map_append, h t (by simp),
      ih (fun t ht => h t (by simp [ht])), forestAttributeNodes]

/-- The nodes that are attributes are listed as the attributes are. -/
theorem Tree.map_children_nodesFrom (t : Tree) (p : List ℕ) :
    ((t.nodesFrom p).filter (·.2.isAttribute)).map (·.2.children) = t.attributeNodes := by
  induction t using Tree.children_induction generalizing p with
  | step t ih =>
    rw [nodesFrom_eq, attributeNodes_eq, ← map_children_forestNodesFrom ih p 0]
    cases ht : t.isAttribute <;> simp [ht]

/-- **The usages of a source are those of its attributes**, as they follow one another in its
trees. -/
theorem parseSource_eq (file : Path) (source : List Char) (recovery : Recovery) :
    parseSource file source recovery =
      match treesOf? source with
      | none => { usages := recovery.usages file source, hasSyntaxErrors := true }
      | some trees => { usages := (forestAttributeNodes trees).map (usageOf file source) } := by
  unfold parseSource
  cases treesOf? source with
  | none => rfl
  | some trees =>
    have hnodes := (Tree.node .compilationUnit trees).map_children_nodesFrom []
    have hforest : (Tree.node .compilationUnit trees).attributeNodes =
        forestAttributeNodes trees := rfl
    rw [hforest] at hnodes
    simp only [Tree.attributes_eq, ← hnodes, List.map_map]
    rfl

end DeclaredDebt.CSharp
