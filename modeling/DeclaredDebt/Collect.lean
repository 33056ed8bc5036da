import DeclaredDebt.Exclude
import DeclaredDebt.FileTree
import DeclaredDebt.IgnoreFile
import DeclaredDebt.Source

/-!
# Collecting source files

The sources below a path, in order. A walk leaves out what ignore files say, in the directories
above as well as below the path, and then hidden names; nothing is found below a directory that is
left out, and links to directories are not followed. Exclude patterns are looked at last, with the
path below the analysed directory. A path to a single file stands for that file alone.

Four kinds of ignore files are read. The first kind that says something about a path decides, and
within a kind the file nearest to the path. Ignore files that a user has outside the tree, for all
repositories, are left out.

## Main definitions

* `FileTree.verdict?`: what the ignore files say about a place.
* `FileTree.admits`: whether a walk gets to a place.
* `FileTree.sourcesAmong`: the sources among what a walk got to.
* `FileTree.collect`: the sources below a path.
* `Analysis.ofPath`: the report on them.
-/

namespace DeclaredDebt

/-- Why there is nothing to analyse. -/
structure MissingPath where
  path : Path
  deriving DecidableEq

/-- The wording of a missing path. -/
def MissingPath.message (e : MissingPath) : String := "Path does not exist: " ++ e.path.text

namespace FileTree

/-- The kinds of ignore files, each by the names that lead to it, the one that decides first at the
front. -/
def ignoreFiles : List (List String) :=
  [[".manualdebtignore"], [".ignore"], [".gitignore"], [".git", "info", "exclude"]]

/-- The rules of an ignore file in a directory; a file that cannot be read has none. -/
def ignoreRules (t : FileTree) (directory names : List String) : List IgnoreRule :=
  match (t.follow false maxLinks directory names).bind t.contentAt with
  | .ok content => IgnoreFile.rules content
  | .error _ => []

/-- The directories above a place, nearest first, each with the names from there to the place. -/
def ancestors (place : List String) : List (List String × List String) :=
  (List.range place.length).reverse.map fun n => (place.take n, place.drop n)

/-- What the ignore files of one kind say about a place. -/
def verdictOfKind? (t : FileTree) (names place : List String) (isDirectory : Bool) :
    Option Verdict :=
  (ancestors place).findSome? fun (directory, below) =>
    IgnoreFile.verdict? (t.ignoreRules directory names)
      (Glob.bytesOf ("/".intercalate below).toList) isDirectory

/-- What the ignore files say about a place. -/
def verdict? (t : FileTree) (place : List String) (isDirectory : Bool) : Option Verdict :=
  ignoreFiles.findSome? fun names => t.verdictOfKind? names place isDirectory

/-- Whether the name of a place is hidden. -/
def isHidden (place : List String) : Bool :=
  match place.getLast? with
  | some name => name.toList.head? == some '.'
  | none => false

/-- Whether a walk leaves a place out. -/
def leavesOut (t : FileTree) (place : List String) : Bool :=
  match t.verdict? place (t.entry? place == some .directory) with
  | some .leaveOut => true
  | some .keep => false
  | none => isHidden place

/-- Whether a walk from a directory gets to a place below it: nothing on the way is left out. -/
def admits (t : FileTree) (directory below : List String) : Bool :=
  (List.range below.length).all fun n => !t.leavesOut (directory ++ below.take (n + 1))

/-- The names from a directory to what a walk from it gets to, apart from directories. -/
def walk (t : FileTree) (directory : List String) : List (List String) :=
  t.places.filterMap fun place =>
    let below := place.drop directory.length
    if directory.isPrefixOf place && !below.isEmpty && below.all isName &&
      t.entry? place != some .directory && t.admits directory below
    then some below else none

/-- The path of something below a root. -/
def pathBelow (root : Path) (below : List String) : Path := root.join ("/".intercalate below)

/-- Whether what a walk got to below a root is a source that is not excluded. -/
def isSource (t : FileTree) (globs : List (List Glob.Piece)) (root : Path)
    (below : List String) : Bool :=
  t.isFile (pathBelow root below) && (pathBelow root below).isSupported &&
    !Exclude.excludes globs below

/-- The sources among what a walk got to below a root, in order. -/
def sourcesAmong (t : FileTree) (globs : List (List Glob.Piece)) (root : Path)
    (found : List (List String)) : List Path :=
  ((found.filter (t.isSource globs root)).map (pathBelow root)).mergeSort Path.le

/-- The sources below a directory. -/
def collectBelow (t : FileTree) (globs : List (List Glob.Piece)) (root : Path)
    (directory : List String) : List Path :=
  t.sourcesAmong globs root (t.walk directory)

/-- The sources below a path. -/
def collect (t : FileTree) (globs : List (List Glob.Piece)) (root : Path) :
    Except MissingPath (List Path) :=
  match t.locate root with
  | .error _ => .error ⟨root⟩
  | .ok place =>
    match t.entry? place with
    | some (.file _) => .ok (if root.isSupported then [root] else [])
    | some .directory => .ok (t.collectBelow globs root place)
    | _ => .error ⟨root⟩

/-- A file that cannot be read as a source. -/
def unreadableMessage (file : Path) (fault : FileFault) : String :=
  "Failed to read file: " ++ file.text ++ ": " ++ fault.message

/-- The usages of a file. Files of other languages have none and are not read. -/
def parseFile (t : FileTree) (file : Path) (recovery : Recovery := .empty) :
    Except FileFault CSharp.ParsedSource :=
  if file.extension? == some "cs".toList then
    (t.readText file).map fun source => CSharp.parseSource file source recovery
  else .ok {}

end FileTree

namespace Analysis

/-- What a file contributes to a report. -/
def outcomeOfFile (a : Analysis) (t : FileTree) (file : Path) : Outcome :=
  match t.parseFile file a.recovery with
  | .ok parsed => a.outcome file parsed.usages
  | .error fault => .unreadable file (FileTree.unreadableMessage file fault)

/-- The report on the sources below a path. -/
def ofPath (a : Analysis) (durationMs : Nat) (t : FileTree) (globs : List (List Glob.Piece))
    (root : Path) : Except MissingPath Report :=
  (t.collect globs root).map fun files =>
    Report.ofOutcomes files.length durationMs (files.map (a.outcomeOfFile t))

end Analysis

end DeclaredDebt
