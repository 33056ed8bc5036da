import DeclaredDebt.Program
import DeclaredDebt.Text.Timestamp
import Std.Time.DateTime.Timestamp

/-!
# The executable

Reads the files that a run can see into a file tree, runs the program on it, prints what it
answers and writes the files that it changed. Everything that is decided is decided by
`Program.run`.
-/

namespace DeclaredDebt.Main

/-- The names that lead to an absolute path. -/
def placeOf (text : String) : List String := (FileTree.steps text).filter (· ≠ "")

/-- The absolute path of a place. -/
def textOf (place : List String) : String := "/" ++ "/".intercalate place

/-- Whether the content of a file can matter: a source, an ignore file or a settings file. -/
def isRelevant (place : List String) : Bool :=
  let name := place.getLast?.getD ""
  (Path.mk name).isSupported || name == Settings.tomlName || name == Settings.jsonName ||
    FileTree.ignoreFiles.any fun names => names.isSuffixOf place

/-- The bytes of a file; nothing if it cannot be read. -/
def readBytes (place : List String) : IO (List UInt8) := do
  try
    return (← IO.FS.readBinFile (textOf place)).data.toList
  catch _ => return []

/-- The kind of what stands at a place. -/
def kindAt (place : List String) : IO (Option IO.FS.FileType) := do
  try
    let path := (← IO.currentDir) / textOf place
    return some (← path.symlinkMetadata).type
  catch _ => return none

/-- The entry of a link. -/
def linkAt (place : List String) : IO FileTree.Entry := do
  try
    return .link (← IO.FS.realPath (textOf place)).toString
  catch _ => return .link "missing"

/-- The entries at and below a place. -/
partial def load (place : List String) : IO (List (List String × FileTree.Entry)) := do
  match ← kindAt place with
  | none => return []
  | some .dir =>
    let path := (← IO.currentDir) / textOf place
    let children ← try path.readDir catch _ => pure #[]
    let below ← children.toList.mapM fun child => load (place ++ [child.fileName])
    return (place, .directory) :: below.flatten
  | some .symlink => return [(place, ← linkAt place)]
  | some _ =>
    let content ← if isRelevant place then readBytes place else pure []
    return [(place, .file content)]

/-- The entries on the way of some steps, and the place they lead to. -/
partial def loadWay (here : List String) :
    List String → IO (List (List String × FileTree.Entry) × List String)
  | [] => return ([], here)
  | step :: rest => do
    if step == "" || step == "." then loadWay here rest
    else if step == ".." then loadWay here.dropLast rest
    else
      let place := here ++ [step]
      match ← kindAt place with
      | none => return ([], place)
      | some .symlink =>
        let entry ← linkAt place
        let target :=
          match entry with
          | .link text => placeOf text
          | _ => place
        let (entries, found) ← loadWay target rest
        return ((place, entry) :: entries, found)
      | some .dir =>
        let (entries, found) ← loadWay place rest
        return ((place, .directory) :: entries, found)
      | some _ =>
        let content ← if isRelevant place then readBytes place else pure []
        let (entries, found) ← loadWay place rest
        return ((place, .file content) :: entries, found)

/-- The ignore and settings files in all directories on the way to a place. -/
def loadAbove (place : List String) : IO (List (List String × FileTree.Entry)) := do
  let names := FileTree.ignoreFiles ++ [[Settings.tomlName], [Settings.jsonName]]
  let directories := (List.range (place.length + 1)).map place.take
  let entries ← (directories.flatMap fun d => names.map (d ++ ·)).mapM fun file => do
    match ← kindAt file with
    | some .file => return [(file, FileTree.Entry.file (← readBytes file))]
    | _ => return []
  return entries.flatten

/-- The files that a run with some arguments can see. -/
def loadTree (arguments : List String) : IO FileTree := do
  let workingDirectory := placeOf (← IO.currentDir).toString
  let way (p : Path) :=
    loadWay (if p.text.toList.head? = some '/' then [] else workingDirectory)
      (FileTree.steps p.text)
  let entries ←
    match CommandLine.parse arguments with
    | .error _ => pure []
    | .ok i => do
      let (onWay, found) ← way i.path
      let output ←
        match i.command? with
        | some (.analyze { output? := some p, .. }) => way p
        | _ => pure ([], [])
      pure (onWay ++ (← load found) ++ (← loadAbove found) ++ output.1)
  return { workingDirectory, entries := (workingDirectory, .directory) :: entries }

/-- Runs the program on the files it can see. -/
def runOn (arguments : List String) : IO UInt32 := do
  let started ← IO.monoMsNow
  let tree ← loadTree arguments
  let now ← Std.Time.Timestamp.now
  let clock : Clock := {
    durationMs := (← IO.monoMsNow) - started
    endTime := Text.timestamp now.toNanosecondsSinceUnixEpoch.val.toNat }
  let result := Program.run clock tree arguments
  for (place, content) in tree.changedFiles result.tree do
    IO.FS.writeBinFile (textOf place) ⟨content.toArray⟩
  IO.print result.stdout
  IO.eprint result.stderr
  return result.exitCode.toUInt32

end DeclaredDebt.Main

def main (arguments : List String) : IO UInt32 := DeclaredDebt.Main.runOn arguments
