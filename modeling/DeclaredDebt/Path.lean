/-!
# Paths

A path keeps the text it was written with, and prints as that text. Two paths are compared through
their components, so repeated slashes, inner `.` steps and a slash at the end make no difference:
`a/b`, `a//b`, `a/./b` and `a/b/` are the same path, while `./a/b` is another.

## Main definitions

* `Path.components`: the steps of a path.
* `Path.key`: the list that paths are ordered by; `Path.le` and `Path.same` compare keys.
* `Path.fileName?`, `Path.extension?`, `Path.parent?`, `Path.join`: the usual parts of a path.
-/

namespace DeclaredDebt

/-- A path as written. -/
structure Path where
  text : String
  deriving DecidableEq, Inhabited

namespace Path

/-- One step of a path. -/
inductive Component where
  /-- The slash a path starts with. -/
  | root
  /-- A dot that a path starts with. -/
  | current
  /-- Two dots. -/
  | parent
  | normal (name : List Char)
  deriving DecidableEq

/-- The pieces between slashes; there is one more piece than there are slashes. -/
def pieces : List Char → List (List Char)
  | [] => [[]]
  | '/' :: rest => [] :: pieces rest
  | c :: rest =>
    match pieces rest with
    | [] => [[c]]
    | piece :: more => (c :: piece) :: more

/-- The step that a piece between slashes stands for; empty pieces and dots stand for none. -/
def step? (piece : List Char) : Option Component :=
  match piece with
  | [] => none
  | ['.'] => none
  | ['.', '.'] => some .parent
  | name => some (.normal name)

/-- The step that a text starts with before its first piece. A dot counts only here. -/
def start : List Char → List Component
  | '/' :: _ => [.root]
  | ['.'] => [.current]
  | '.' :: '/' :: _ => [.current]
  | _ => []

/-- The steps of a text. -/
def componentsOf (text : List Char) : List Component :=
  start text ++ (pieces text).filterMap step?

/-- The steps of a path. -/
def components (p : Path) : List Component := componentsOf p.text.toList

/-- Steps are ordered as the root, the current directory, the parent, and then by name. -/
def Component.key : Component → List Nat
  | .root => [0]
  | .current => [1]
  | .parent => [2]
  | .normal name => 3 :: name.map Char.toNat

/-- What paths are compared by. -/
def key (p : Path) : List (List Nat) := p.components.map Component.key

/-- The order of paths, step by step. -/
def le (p q : Path) : Bool := !decide (q.key < p.key)

/-- Whether two paths have the same steps. -/
def same (p q : Path) : Bool := p.key == q.key

/-- The last step, if it is a name. -/
def fileName? (p : Path) : Option (List Char) :=
  match p.components.getLast? with
  | some (.normal name) => some name
  | _ => none

/-- The part of a file name behind its last dot; a dot in front does not start an extension. -/
def extensionOf? (name : List Char) : Option (List Char) :=
  let tail := name.reverse.takeWhile (· ≠ '.')
  if tail.length + 1 < name.length then some tail.reverse else none

/-- The extension of the file a path names. -/
def extension? (p : Path) : Option (List Char) := p.fileName?.bind extensionOf?

/-- A path below a directory: a slash goes between them unless the directory ends with one, and an
absolute path stands for itself. -/
def join (dir : Path) (name : String) : Path :=
  if name.toList.head? = some '/' then ⟨name⟩
  else if dir.text = "" then ⟨name⟩
  else if dir.text.toList.getLast? = some '/' then ⟨dir.text ++ name⟩
  else ⟨dir.text ++ "/" ++ name⟩

/-- Removes the last step of a text together with the slashes and dots around it. -/
def parentText (text : List Char) : List Char :=
  let trimmed := trimEnd text.length text
  let dir := (trimmed.reverse.dropWhile (· ≠ '/')).reverse
  trimEnd dir.length dir
where
  /-- Drops slashes and dot steps at the end, but not a leading slash or dot. -/
  trimEnd : Nat → List Char → List Char
    | 0, t => t
    | n + 1, t =>
      match t.reverse with
      | '/' :: c :: rest => trimEnd n (c :: rest).reverse
      | '.' :: '/' :: rest => trimEnd n ('/' :: rest).reverse
      | _ => t

/-- The path without its last step; the root and the empty path have none. -/
def parent? (p : Path) : Option Path :=
  match p.components.getLast? with
  | none => none
  | some .root => none
  | some _ => some ⟨String.ofList (parentText p.text.toList)⟩

instance : ToString Path := ⟨Path.text⟩

end Path

end DeclaredDebt
