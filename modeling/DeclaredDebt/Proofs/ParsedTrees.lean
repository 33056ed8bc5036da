import DeclaredDebt.CSharp.Grammar
import Mathlib

/-!
# What a parse makes of its tokens

Rules read tokens in many ways, but there are only three things a reading can do: take nothing, take
one token, or go on behind another reading; and a rule can make a node of what it took. What holds
of these holds of every parse, by one induction over the rules and the nesting of symbols. The
tokens of the trees are then the tokens that were read, in their order, and every node has the shape
that the one rule behind it gives.

## Main definitions

* `ReadingLaw C`: a relation between tokens, trees and the tokens left that readings keep.
* `Obeys C r`: all readings of a reader are so related.
* `Rule.nodes`: the nodes that a rule makes itself, each with the rule for what is in it.
-/

namespace DeclaredDebt.CSharp

/-- A relation between the tokens before a reading, the trees it made and the tokens left, that
holds of reading nothing and of reading a token, and of two readings in a row if it holds
of both. -/
structure ReadingLaw (C : List Token → List Tree → List Token → Prop) : Prop where
  nothing : ∀ ts, C ts [] ts
  token : ∀ t rest, C (t :: rest) [.leaf t] rest
  append : ∀ {ts trees behind more rest}, C ts trees behind → C behind more rest →
    C ts (trees ++ more) rest

/-- All readings of a reader are in a relation. -/
def Obeys (C : List Token → List Tree → List Token → Prop) (r : Reader) : Prop :=
  ∀ ts trees rest, r ts = some (trees, rest) → C ts trees rest

namespace Rule

variable {σ : Type}

/-- The nodes that a rule makes itself, not counting its symbols, each with the rule for what is in
it. -/
def nodes : Rule σ → List (NodeKind × Rule σ)
  | .node kind a => (kind, a) :: a.nodes
  | .seq a b => a.nodes ++ b.nodes
  | .alt a b => a.nodes ++ b.nodes
  | .many a => a.nodes
  | _ => []

/-! ## Single rules -/

variable {symbol : σ → Reader} {ts rest : List Token} {trees : List Tree}

theorem run_token_eq_some_iff {c : TokenClass} :
    (token c).run symbol ts = some (trees, rest) ↔
      ∃ t, ts = t :: rest ∧ c.fits t = true ∧ trees = [.leaf t] := by
  constructor
  · intro h
    cases ts with
    | nil => cases h
    | cons t ts =>
      rw [run] at h
      split at h
      · next hfits =>
        cases h
        exact ⟨t, rfl, hfits, rfl⟩
      · cases h
  · rintro ⟨t, rfl, hfits, rfl⟩
    simp [run, hfits]

theorem run_seq_eq_some_iff {a b : Rule σ} :
    (seq a b).run symbol ts = some (trees, rest) ↔
      ∃ first behind more, a.run symbol ts = some (first, behind) ∧
        b.run symbol behind = some (more, rest) ∧ trees = first ++ more := by
  rw [run]
  constructor
  · intro h
    split at h
    · cases h
    · next first behind hfirst =>
      split at h
      · cases h
      · next more left hmore =>
        cases h
        exact ⟨first, behind, more, hfirst, hmore, rfl⟩
  · rintro ⟨first, behind, more, hfirst, hmore, rfl⟩
    simp [hfirst, hmore]

theorem run_node_eq_some_iff {kind : NodeKind} {a : Rule σ} :
    (node kind a).run symbol ts = some (trees, rest) ↔
      ∃ inner, a.run symbol ts = some (inner, rest) ∧ trees = [.node kind inner] := by
  rw [run]
  constructor
  · intro h
    split at h
    · cases h
    · next inner left hinner =>
      cases h
      exact ⟨inner, hinner, rfl⟩
  · rintro ⟨inner, hinner, rfl⟩
    simp [hinner]

end Rule

/-! ## The induction -/

/-- What a reading keeps is kept by many of them in a row, if it holds of none and of two. -/
theorem Obeys.readMany {C : List Token → List Tree → List Token → Prop}
    (nothing : ∀ ts, C ts [] ts)
    (append : ∀ {ts trees behind more rest}, C ts trees behind → C behind more rest →
      C ts (trees ++ more) rest)
    {r : Reader} (hr : Obeys C r) (n : ℕ) : Obeys C (readMany r n) := by
  induction n with
  | zero =>
    intro ts trees rest h
    cases h
    exact nothing ts
  | succ n ih =>
    intro ts trees rest h
    rw [CSharp.readMany] at h
    split at h
    · cases h
      exact nothing ts
    · next first behind hfirst =>
      split at h
      · split at h
        · next more left hmore =>
          cases h
          exact append (hr _ _ _ hfirst) (ih _ _ _ hmore)
        · cases h
      · cases h
        exact nothing ts

namespace ReadingLaw

variable {C : List Token → List Tree → List Token → Prop}

variable {σ : Type}

/-- What readings keep is kept by a rule if its symbols keep it and making its nodes does. -/
theorem run (hC : ReadingLaw C) {symbol : σ → Reader} (hsymbol : ∀ s, Obeys C (symbol s))
    (a : Rule σ)
    (hnode : ∀ n ∈ a.nodes, ∀ ts trees rest, n.2.run symbol ts = some (trees, rest) →
      C ts trees rest → C ts [.node n.1 trees] rest) :
    Obeys C (a.run symbol) := by
  induction a with
  | done =>
    intro ts trees rest h
    cases h
    exact hC.nothing ts
  | token c =>
    intro ts trees rest h
    obtain ⟨t, rfl, -, rfl⟩ := Rule.run_token_eq_some_iff.1 h
    exact hC.token t rest
  | call s => exact hsymbol s
  | seq a b iha ihb =>
    intro ts trees rest h
    obtain ⟨first, behind, more, hfirst, hmore, rfl⟩ := Rule.run_seq_eq_some_iff.1 h
    refine hC.append (iha ?_ _ _ _ hfirst) (ihb ?_ _ _ _ hmore)
    · intro n hn
      exact hnode n (List.mem_append_left _ hn)
    · intro n hn
      exact hnode n (List.mem_append_right _ hn)
  | alt a b iha ihb =>
    intro ts trees rest h
    rw [Rule.run] at h
    split at h
    · next result hfirst =>
      cases h
      refine iha ?_ _ _ _ hfirst
      intro n hn
      exact hnode n (List.mem_append_left _ hn)
    · refine ihb ?_ _ _ _ h
      intro n hn
      exact hnode n (List.mem_append_right _ hn)
  | many a ih =>
    intro ts trees rest h
    exact Obeys.readMany hC.nothing hC.append (ih hnode) ts.length ts trees rest h
  | ahead a ih =>
    intro ts trees rest h
    rw [Rule.run] at h
    split at h
    · cases h
      exact hC.nothing ts
    · cases h
  | absent a ih =>
    intro ts trees rest h
    rw [Rule.run] at h
    split at h
    · cases h
    · cases h
      exact hC.nothing ts
  | check p =>
    intro ts trees rest h
    rw [Rule.run] at h
    split at h
    · cases h
      exact hC.nothing ts
    · cases h
  | node kind a ih =>
    intro ts trees rest h
    obtain ⟨inner, hinner, rfl⟩ := Rule.run_node_eq_some_iff.1 h
    have hkept : C ts inner rest :=
      ih (fun n hn => hnode n (List.mem_cons_of_mem _ hn)) _ _ _ hinner
    exact hnode (kind, a) List.mem_cons_self ts inner rest hinner hkept

variable {grammar : σ → Rule σ}

/-- Symbols keep it however deep they are nested. -/
theorem runSymbol (hC : ReadingLaw C)
    (hnode : ∀ s, ∀ n ∈ (grammar s).nodes, ∀ depth ts trees rest,
      n.2.run (runSymbol grammar depth) ts = some (trees, rest) → C ts trees rest →
      C ts [.node n.1 trees] rest)
    (depth : ℕ) (s : σ) : Obeys C (runSymbol grammar depth s) := by
  induction depth generalizing s with
  | zero =>
    intro ts trees rest h
    cases h
  | succ depth ih => exact hC.run ih (grammar s) fun n hn => hnode s n hn _

/-- **What readings keep holds of every parse**, if making the nodes of the grammar keeps it. -/
theorem of_parse? (hC : ReadingLaw C)
    (hnode : ∀ s, ∀ n ∈ (grammar s).nodes, ∀ depth ts trees rest,
      n.2.run (CSharp.runSymbol grammar depth) ts = some (trees, rest) → C ts trees rest →
      C ts [.node n.1 trees] rest)
    {start : σ} {ts : List Token} {trees : List Tree} (h : parse? grammar start ts = some trees) :
    C ts trees [] := by
  unfold parse? at h
  split at h
  · next hread =>
    cases h
    exact hC.runSymbol hnode _ _ _ _ _ hread
  · cases h

end ReadingLaw

/-! ## The tokens of trees -/

theorem forestLeaves_append (trees more : List Tree) :
    forestLeaves (trees ++ more) = forestLeaves trees ++ forestLeaves more := by
  induction trees with
  | nil => rfl
  | cons t trees ih =>
    rw [List.cons_append, forestLeaves, forestLeaves, ih, List.append_assoc]

theorem readingLaw_forestLeaves :
    ReadingLaw fun ts trees rest => forestLeaves trees ++ rest = ts where
  nothing := by
    intro ts
    rfl
  token := by
    intro t rest
    rfl
  append := by
    intro ts trees behind more rest hfirst hmore
    rw [forestLeaves_append, List.append_assoc, hmore, hfirst]

/-- **The trees of a parse hold the tokens that were read**, in their order. -/
theorem forestLeaves_of_parse? {σ : Type} {grammar : σ → Rule σ} {start : σ} {ts : List Token}
    {trees : List Tree} (h : parse? grammar start ts = some trees) : forestLeaves trees = ts := by
  have hkept := readingLaw_forestLeaves.of_parse? (fun s n hn depth ts trees rest _ hkept => ?_) h
  · simpa using hkept
  · simpa [forestLeaves, Tree.leaves] using hkept

/-! ## The attributes of the grammar -/

namespace Rule

variable {σ : Type}

/-- Whether a rule reads a name first, and a token first in it. -/
def startsWithName : Rule σ → Bool
  | .seq (.node .name (.seq (.token _) _)) _ => true
  | _ => false

theorem of_startsWithName {a : Rule σ} (ha : a.startsWithName = true) {symbol : σ → Reader}
    {ts rest : List Token} {trees : List Tree} (h : a.run symbol ts = some (trees, rest)) :
    ∃ t name others, trees = .node .name (.leaf t :: name) :: others := by
  unfold startsWithName at ha
  split at ha
  · obtain ⟨first, behind, others, hfirst, -, rfl⟩ := run_seq_eq_some_iff.1 h
    obtain ⟨inner, hinner, rfl⟩ := run_node_eq_some_iff.1 hfirst
    obtain ⟨token, behind', name, htoken, -, rfl⟩ := run_seq_eq_some_iff.1 hinner
    obtain ⟨t, -, -, rfl⟩ := run_token_eq_some_iff.1 htoken
    exact ⟨t, name, others, rfl⟩
  · cases ha

end Rule

/-- Every attribute of the grammar starts with its name. -/
theorem startsWithName_of_mem_nodes {s : Symbol} {n : NodeKind × Rule Symbol}
    (hn : n ∈ (grammar s).nodes) (hkind : n.1 = .attribute) : n.2.startsWithName = true := by
  have hall : (grammar s).nodes.all (fun n => n.1 != .attribute || n.2.startsWithName) = true := by
    cases s <;> decide +kernel
  simpa [hkind] using List.all_eq_true.1 hall n hn

end DeclaredDebt.CSharp
