import DeclaredDebt.Collect
import DeclaredDebt.Format
import DeclaredDebt.Text.Replace

/-!
# Commands

What the program can be asked to do, what comes of it, and why it can fail. A command works on a
file tree: it answers what is printed, an exit code, and the tree as it is afterwards.

## Main definitions

* `Command`, `Invocation`: what is asked.
* `RunResult`: what comes of it.
* `CommandError`: why a command fails as a whole.
-/

namespace DeclaredDebt

/-- What the command line says about an analysis. -/
structure AnalyzeOptions where
  format? : Option Format := none
  output? : Option Path := none
  failOn? : Option Nat := none
  minDays? : Option Nat := none
  deriving DecidableEq

/-- What the program can be asked to do. -/
inductive Command where
  /-- Write a settings file. -/
  | init
  /-- Report the declared debt. -/
  | analyze (options : AnalyzeOptions)
  /-- List the rules. -/
  | rules (format : Format)
  deriving DecidableEq

/-- How much is logged. -/
inductive LogLevel where
  | error
  | warn
  | info
  | debug
  | trace
  deriving DecidableEq

namespace LogLevel

/-- Every level, from the quietest. -/
def all : List LogLevel := [.error, .warn, .info, .debug, .trace]

/-- The word for a level. -/
def name : LogLevel → String
  | .error => "error"
  | .warn => "warn"
  | .info => "info"
  | .debug => "debug"
  | .trace => "trace"

end LogLevel

/-- A whole command line. Without a command, the path is analysed. -/
structure Invocation where
  path : Path
  logLevel : LogLevel
  workers? : Option Nat
  command? : Option Command
  deriving DecidableEq

/-- What comes of a run. -/
structure RunResult where
  exitCode : Nat := 0
  stdout : String := ""
  stderr : String := ""
  tree : FileTree

/-- Why a command fails as a whole. -/
inductive CommandError where
  | unknownFormat (e : UnknownFormat)
  | badPattern (e : BadPattern)
  /-- The path to analyse leads nowhere. -/
  | missingPath (e : MissingPath)
  /-- A report cannot be written. -/
  | notWritten (output : Path) (fault : FileFault)
  /-- The path to set up leads nowhere. -/
  | unreachable (path : Path) (fault : FileFault)
  /-- The path to set up is no directory. -/
  | notDirectory (real : String)
  /-- The settings file cannot be written. -/
  | notCreated (real : String) (fault : FileFault)

namespace CommandError

/-- What went wrong. -/
def message : CommandError → String
  | .unknownFormat e => e.message
  | .badPattern e => e.message
  | .missingPath e => e.message
  | .notWritten output _ => "Failed to write " ++ output.text
  | .unreachable path _ => "Path does not exist: " ++ path.text
  | .notDirectory real => "Path is not a directory: " ++ real
  | .notCreated real _ => "Failed to create " ++ real

/-- What it came from. -/
def cause? : CommandError → Option String
  | .badPattern e => some e.cause.message
  | .notWritten _ fault => some fault.message
  | .unreachable _ fault => some fault.message
  | .notCreated _ fault => some fault.message
  | _ => none

/-- A text with all its lines indented. -/
def indent (text : String) : String :=
  "    " ++ String.ofList (Text.replace ['\n'] "\n    ".toList text.toList)

/-- The error as it is printed. -/
def report (e : CommandError) : String :=
  match e.cause? with
  | none => "Error: " ++ e.message ++ "\n"
  | some cause => "Error: " ++ e.message ++ "\n\nCaused by:\n" ++ indent cause ++ "\n"

end CommandError

end DeclaredDebt
