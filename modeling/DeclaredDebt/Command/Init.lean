import DeclaredDebt.Command
import DeclaredDebt.Settings

/-!
# Setting up a directory

`FileTree.setUp` writes a settings file with example settings into a directory. A settings file
that is already there is left as it is.
-/

namespace DeclaredDebt

/-- The lines of the settings file that a directory is given. -/
def Settings.templateLines : List String :=
  ["# manual-debt configuration",
   "",
   "[exclude]",
   "# Paths/patterns to skip (gitignore and .manualdebtignore are always honoured)",
   "paths = [\"bin/\", \"obj/\", \"*.Designer.cs\"]",
   "",
   "[defaults]",
   "# Output format (text, json, sarif)",
   "format = \"text\"",
   "",
   "# Exit with code 1 when total declared days reach this value",
   "# fail_on = 120",
   "",
   "# Hide diagnostics whose bucket is cheaper than this many days",
   "# min_days = 1",
   "",
   "[diagnostics]",
   "# Severity for every bucket (info, warning, error)",
   "severity = \"info\""]

/-- The settings file that a directory is given. -/
def Settings.template : String := String.join (templateLines.map (· ++ "\n"))

namespace FileTree

/-- Whether a name in a directory leads to something. -/
def holds (t : FileTree) (directory : List String) (name : String) : Bool :=
  match t.follow false maxLinks directory [name] with
  | .ok place => (t.entry? place).isSome
  | .error _ => false

/-- Writes a settings file into a directory that has none. -/
def setUp (t : FileTree) (path : Path) : Except CommandError RunResult :=
  match t.locate path with
  | .error fault => .error (.unreachable path fault)
  | .ok directory =>
    if t.entry? directory ≠ some .directory then .error (.notDirectory (t.realText directory))
    else
      let real := t.realText (directory ++ [Settings.tomlName])
      if t.holds directory Settings.tomlName then
        .ok { stdout := "✓ Already initialized at " ++ real ++ "\n", tree := t }
      else
        match t.follow true maxLinks directory [Settings.tomlName] with
        | .error fault => .error (.notCreated real fault)
        | .ok place =>
          .ok {
            stdout := "✓ Created " ++ real ++ "\n\nNext: manual-debt analyze .\n"
            tree := t.setFile place Settings.template.toUTF8.data.toList }

end FileTree

end DeclaredDebt
