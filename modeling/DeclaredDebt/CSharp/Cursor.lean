import DeclaredDebt.CSharp.Rule

/-!
# Walking over a tree

A tree can be very deep, so its attributes are found by a loop and not by recursion: a cursor moves
from node to node, first down, then to the next sibling, and back up where there is none. What the
loop needs of a cursor are three moves, each of which may be impossible.

Nothing in the loop says that it ends. Its answer is therefore optional, and there is none exactly
if the loop goes on forever.

## Main definitions

* `Cursor`: the moves over a tree.
* `Cursor.collect`: the loop over all nodes.
* `Position`: a node of a tree with what surrounds it; `Position.cursor` moves from one to another.
* `Tree.attributes`: the attributes of a tree.
-/

namespace DeclaredDebt.CSharp

/-- The trees right below a tree. -/
def Tree.children : Tree → List Tree
  | .leaf _ => []
  | .node _ children => children

/-- Whether a tree is an attribute. -/
def Tree.isAttribute : Tree → Bool
  | .node .attribute _ => true
  | _ => false

/-- The moves over the nodes of a tree. A move that is not possible leads nowhere. -/
structure Cursor (σ ν : Type) where
  node : σ → ν
  firstChild? : σ → Option σ
  nextSibling? : σ → Option σ
  parent? : σ → Option σ

namespace Cursor

variable {σ ν : Type}

/-- The next sibling, or that of the nearest node above which has one. If no node has, the walk is
over. -/
def onward (c : Cursor σ ν) (s : σ) : Option (Option σ) :=
  match c.nextSibling? s with
  | some next => some (some next)
  | none =>
    match c.parent? s with
    | some up => c |>.onward up
    | none => some none
partial_fixpoint

/-- Walks over all nodes from a state on, and adds those that are wanted to what was found. -/
def collect (c : Cursor σ ν) (wanted : ν → Bool) (s : σ) (found : Array ν) : Option (Array ν) :=
  let node := c.node s
  let found := if wanted node then found.push node else found
  match c.firstChild? s with
  | some child => c |>.collect wanted child found
  | none =>
    match c.onward s with
    | some (some next) => c |>.collect wanted next found
    | some none => some found
    | none => none
partial_fixpoint

end Cursor

/-- A node of a tree, with the siblings behind it and the nodes above it. -/
structure Position where
  node : Tree
  later : List Tree := []
  /-- The nodes above, from the nearest on, each with the siblings behind it. -/
  above : List (Tree × List Tree) := []

namespace Position

def firstChild? (p : Position) : Option Position :=
  match p.node.children with
  | [] => none
  | child :: later => some ⟨child, later, (p.node, p.later) :: p.above⟩

def nextSibling? (p : Position) : Option Position :=
  match p.later with
  | [] => none
  | next :: later => some { p with node := next, later }

def parent? (p : Position) : Option Position :=
  match p.above with
  | [] => none
  | (up, later) :: above => some ⟨up, later, above⟩

/-- The cursor that moves over the positions in a tree. -/
def cursor : Cursor Position Tree := ⟨node, firstChild?, nextSibling?, parent?⟩

end Position

/-- The attributes of a tree, as a walk from its root finds them. -/
def Tree.attributes (root : Tree) : List Tree :=
  ((Position.cursor.collect Tree.isAttribute { node := root } #[]).getD #[]).toList

end DeclaredDebt.CSharp
