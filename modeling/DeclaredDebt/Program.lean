import DeclaredDebt.Command.Analyze
import DeclaredDebt.Command.Init
import DeclaredDebt.CommandLine.Help

/-!
# The program

A whole run: the arguments are read, the command is done on the file tree, and what is printed is
put together. A wrong command line ends with code 2, a command that fails as a whole with code 1.
The log is left out of what is printed, and with it what the log level does.
-/

namespace DeclaredDebt

/-- Does what a command line asks for. -/
def Invocation.run (i : Invocation) (clock : Clock) (t : FileTree) (recovery : Recovery) :
    Except CommandError RunResult :=
  match i.command? with
  | none => t.analyze clock i.path i.workers? {} recovery
  | some .init => t.setUp i.path
  | some (.analyze options) => t.analyze clock i.path i.workers? options recovery
  | some (.rules format) => .ok { stdout := format.renderRules, tree := t }

namespace Program

/-- A run that stops before its command. -/
def stopped (t : FileTree) : Stop → RunResult
  | .help topic long => { stdout := Help.text topic long, tree := t }
  | .version => { stdout := Help.versionText, tree := t }
  | .misuse e =>
    { exitCode := 2
      stderr := "error: " ++ e.message ++ "\n\nFor more information, try '--help'.\n"
      tree := t }

/-- A whole run. -/
def run (clock : Clock) (t : FileTree) (arguments : List String) (recovery : Recovery := .empty) :
    RunResult :=
  match CommandLine.parse arguments with
  | .error stop => stopped t stop
  | .ok invocation =>
    match invocation.run clock t recovery with
    | .ok result => result
    | .error e => { exitCode := 1, stderr := e.report, tree := t }

end Program

end DeclaredDebt
