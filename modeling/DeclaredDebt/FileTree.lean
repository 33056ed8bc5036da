import DeclaredDebt.Path

/-!
# File trees

The files that a run can see: which names lead to a file, a directory or a symbolic link. A
directory exists when it is listed or when something below it is. Paths are looked up from a
working directory and follow links, up to a limit.

## Main definitions

* `FileTree.entry?`: what stands at a place; `FileTree.places` lists the places.
* `FileTree.locate`: the place a path leads to.
* `FileTree.isFile`, `FileTree.isDirectory`, `FileTree.read`, `FileTree.readText`: what is there.
* `FileTree.write`: the tree with a file changed or added.
-/

namespace DeclaredDebt

/-- Why a file cannot be used. -/
inductive FileFault where
  | notFound
  | notDirectory
  | isDirectory
  | tooManyLinks
  | notText
  deriving DecidableEq

/-- The wording of a fault. -/
def FileFault.message : FileFault → String
  | .notFound => "No such file or directory (os error 2)"
  | .notDirectory => "Not a directory (os error 20)"
  | .isDirectory => "Is a directory (os error 21)"
  | .tooManyLinks => "Too many levels of symbolic links (os error 40)"
  | .notText => "stream did not contain valid UTF-8"

/-- What stands at a place. -/
inductive FileTree.Entry where
  | file (content : List UInt8)
  | link (target : String)
  | directory
  deriving DecidableEq

/-- The files that a run can see. A place is the list of names that lead to it; of two entries for
one place the first counts. -/
structure FileTree where
  /-- How the top of the tree is written; if it is empty, the tree is the whole file system. -/
  top : String := ""
  /-- Where relative paths start. -/
  workingDirectory : List String := []
  entries : List (List String × FileTree.Entry) := []

namespace FileTree

/-- What stands at a place. -/
def entry? (t : FileTree) (place : List String) : Option Entry :=
  match t.entries.find? (·.1 == place) with
  | some e => some e.2
  | none =>
    if place.isEmpty || t.entries.any fun e => place.isPrefixOf e.1 then some .directory else none

/-- The places that have an entry, each once. -/
def places (t : FileTree) : List (List String) := (t.entries.map (·.1)).eraseDups

/-- Whether a text can be the name of something in a directory. -/
def isName (text : String) : Bool :=
  text != "" && text != "." && text != ".." && !text.toList.contains '/'

/-- How many links a path may follow. -/
def maxLinks : Nat := 40

/-- The steps of a path, with an empty step for every slash that stands next to another or at the
end. -/
def steps (text : String) : List String := (Path.pieces text.toList).map String.ofList

/-- The place where a path starts. -/
def start? (t : FileTree) (here : List String) (text : String) : Option (List String) :=
  if text.toList.head? = some '/' then (if t.top = "" then some [] else none) else some here

/-- The place that some steps lead to. With `creating`, the last step may lead to nothing yet. What
comes of a link is left open: it is asked for with the place of the link, its target and the steps
behind it. -/
def followSteps (t : FileTree) (creating : Bool)
    (viaLink : List String → String → List String → Except FileFault (List String))
    (here : List String) : List String → Except FileFault (List String)
  | [] => .ok here
  | step :: rest =>
    if t.entry? here ≠ some .directory then .error .notDirectory
    else if step = "" ∨ step = "." then t.followSteps creating viaLink here rest
    else if step = ".." then t.followSteps creating viaLink here.dropLast rest
    else
      match t.entry? (here ++ [step]) with
      | none => if creating ∧ rest = [] then .ok (here ++ [step]) else .error .notFound
      | some (.link target) => viaLink here target rest
      | some _ => t.followSteps creating viaLink (here ++ [step]) rest

/-- The place that some steps lead to over at most so many links. -/
def follow (t : FileTree) (creating : Bool) :
    Nat → List String → List String → Except FileFault (List String)
  | 0 => t.followSteps creating fun _ _ _ => .error .tooManyLinks
  | links + 1 => t.followSteps creating fun here target rest =>
    match t.start? here target with
    | none => .error .notFound
    | some place => t.follow creating links place (steps target ++ rest)

/-- The place a path leads to. -/
def locate (t : FileTree) (p : Path) : Except FileFault (List String) :=
  match t.start? t.workingDirectory p.text with
  | none => .error .notFound
  | some place =>
    if p.text = "" then .error .notFound else t.follow false maxLinks place (steps p.text)

/-- What a path leads to. -/
def lookup? (t : FileTree) (p : Path) : Option Entry :=
  match t.locate p with
  | .ok place => t.entry? place
  | .error _ => none

/-- Whether a path leads to a file. -/
def isFile (t : FileTree) (p : Path) : Bool :=
  match t.lookup? p with
  | some (.file _) => true
  | _ => false

/-- Whether a path leads to a directory. -/
def isDirectory (t : FileTree) (p : Path) : Bool :=
  match t.lookup? p with
  | some .directory => true
  | _ => false

/-- The content of the file at a place. -/
def contentAt (t : FileTree) (place : List String) : Except FileFault (List UInt8) :=
  match t.entry? place with
  | some (.file content) => .ok content
  | some _ => .error .isDirectory
  | none => .error .notFound

/-- The content of the file that a path leads to. -/
def read (t : FileTree) (p : Path) : Except FileFault (List UInt8) := do
  t.contentAt (← t.locate p)

/-- The text of the file that a path leads to. -/
def readText (t : FileTree) (p : Path) : Except FileFault (List Char) := do
  let content ← t.read p
  match String.fromUTF8? ⟨content.toArray⟩ with
  | some text => .ok text.toList
  | none => .error .notText

/-- How a place is written without links and dots. -/
def realText (t : FileTree) (place : List String) : String :=
  if place.isEmpty && t.top = "" then "/" else t.top ++ String.join (place.map ("/" ++ ·))

/-- The tree with a file at a place, in the stead of what stood there. -/
def setFile (t : FileTree) (place : List String) (content : List UInt8) : FileTree :=
  if t.entries.any (·.1 == place) then
    { t with entries := t.entries.map fun e => if e.1 == place then (e.1, .file content) else e }
  else { t with entries := t.entries ++ [(place, .file content)] }

/-- Where a file for a path is written. A path that ends with a slash names no file. -/
def placeToWrite (t : FileTree) (p : Path) : Except FileFault (List String) :=
  match t.start? t.workingDirectory p.text with
  | none => .error .notFound
  | some place =>
    if p.text = "" then .error .notFound
    else
      match (steps p.text).reverse with
      | "" :: before =>
        match t.follow false maxLinks place before.tail.reverse with
        | .ok _ => .error .isDirectory
        | .error e => .error e
      | _ => t.follow true maxLinks place (steps p.text)

/-- The tree after a file has been written. -/
def write (t : FileTree) (p : Path) (content : List UInt8) : Except FileFault FileTree := do
  let place ← t.placeToWrite p
  match t.entry? place with
  | some .directory => .error .isDirectory
  | _ => .ok (t.setFile place content)

/-- The files that one tree has and another has not, or has with another content. -/
def changedFiles (before after : FileTree) : List (List String × List UInt8) :=
  after.entries.filterMap fun e =>
    match e.2 with
    | .file content => if before.entry? e.1 = some e.2 then none else some (e.1, content)
    | _ => none

end FileTree

end DeclaredDebt
