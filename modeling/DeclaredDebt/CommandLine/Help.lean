import DeclaredDebt.CommandLine

/-!
# Help on the command line

The texts that explain the program and its commands. A summary puts a parameter and its explanation
into one line, in two columns; help at length puts the explanation below the parameter. Only the
whole program has more to say at length.
-/

namespace DeclaredDebt.Help

/-- The name of the program. -/
def programName : String := "manual-debt"

/-- The name and the version of the program. -/
def versionText : String := programName ++ " 0.1.0\n"

/-- What is said about the path. -/
def aboutPath : String := "Path to a directory or .cs file (default: current directory)"

/-- The names of some choices. -/
def choiceList (names : List String) : String := ", ".intercalate names

/-- What is said about a parameter. -/
def aboutParameter (level : Level) (long : Bool) : Parameter → String
  | .path => aboutPath
  | .logLevel => "Log level (" ++ choiceList (LogLevel.all.map LogLevel.name) ++ ")"
  | .workers => "Number of parallel workers (1-64, default: auto)"
  | .format => "Output format: " ++ choiceList (level.formats.map Format.name)
  | .output => "Output file path (default: stdout)"
  | .failOn => "Exit with code 1 if total declared days reach this value"
  | .minDays => "Hide diagnostics whose bucket is cheaper than this many days"
  | .help =>
    if level ≠ .top then "Print help"
    else if long then "Print help (see a summary with '-h')"
    else "Print help (see more with '--help')"
  | .version => "Print version"

/-- The value that a parameter has when nothing is said. -/
def defaultValue? (level : Level) : Parameter → Option String
  | .path => some "."
  | .logLevel => some LogLevel.warn.name
  | .format => if level = .rules then some Format.text.name else none
  | _ => none

/-- The possible values of a parameter, if they are few. -/
def possibleValues (level : Level) : Parameter → List String
  | .logLevel => LogLevel.all.map LogLevel.name
  | .format => level.formats.map Format.name
  | _ => []

/-- A line of a list: what is explained, its explanation, and notes on values. -/
structure Item where
  head : String
  about : String
  notes : List String := []

/-- A parameter as an item. -/
def itemOf (level : Level) (long : Bool) (p : Parameter) : Item where
  head :=
    match p, p.letter? with
    | .path, _ => p.label
    | p, some c => String.ofList ['-', c] ++ ", " ++ p.label
    | p, none => "    " ++ p.label
  about := aboutParameter level long p
  notes :=
    (defaultValue? level p).toList.map (fun v => "[default: " ++ v ++ "]") ++
      match possibleValues level p with
      | [] => []
      | values => ["[possible values: " ++ choiceList values ++ "]"]

/-- A text filled up with blanks. -/
def pad (width : Nat) (text : String) : String :=
  text ++ String.ofList (List.replicate (width - text.length) ' ')

/-- Items in two columns. -/
def columns (items : List Item) : String :=
  let width := (items.map (·.head.length)).foldl max 0
  String.join (items.map fun i =>
    "  " ++ pad width i.head ++ "  " ++ " ".intercalate (i.about :: i.notes) ++ "\n")

/-- The indentation of explanations below what they explain. -/
def margin : String := "          "

/-- Items with their explanations below them. -/
def paragraphs (items : List Item) : String :=
  "\n".intercalate (items.map fun i =>
    let notes := String.join (i.notes.map fun n => margin ++ n ++ "\n")
    "  " ++ i.head ++ "\n" ++ margin ++ i.about ++ "\n" ++
      if i.notes.isEmpty then "" else margin ++ "\n" ++ notes)

/-- Items as a summary or at length. -/
def itemList (long : Bool) (items : List Item) : String :=
  if long then paragraphs items else columns items

/-- What is said about a level. -/
def aboutLevel : Level → String
  | .top => "Report [ManualTechnicalDebt] remediation costs in C# code as bucketed diagnostics"
  | .init => "Write a manual-debt.toml config file with example settings"
  | .analyze => "Analyze C# files for ManualTechnicalDebt attributes"
  | .rules => "List every diagnostic this tool can report"

/-- What is said about the program at length. -/
def aboutProgram : String :=
  "Finds every [ManualTechnicalDebt(SqaleRemediationDaysEffort = N)] attribute in a C# code " ++
    "base and reports its cost as one or two fixed diagnostics: a tens bucket (10-90 days) plus " ++
    "a ones bucket (1-9 days). Costs of 100 days or more are reported as 99.\n\n" ++
    "Run without a subcommand to analyze the current directory:\n  manual-debt ."

/-- What is said about the command that explains the others. -/
def aboutHelp : String := "Print this message or the help of the given subcommand(s)"

/-- What stands at the end of the help on a level. -/
def examples : Level → String
  | .top =>
    "\nExamples:\n" ++
      "  manual-debt .                           Analyze current directory\n" ++
      "  manual-debt analyze . --format json     JSON output for scripting\n" ++
      "  manual-debt analyze . --fail-on 60      Exit code 1 at 60+ declared days\n" ++
      "  manual-debt rules                       List the 18 diagnostics\n"
  | .analyze =>
    "\nExamples:\n" ++
      "  manual-debt analyze .                                     Analyze current directory\n" ++
      "  manual-debt analyze src/Legacy.cs                         Analyze one file\n" ++
      "  manual-debt analyze . --format sarif -o debt.sarif.json   " ++
      "SARIF for GitHub Code Scanning\n" ++
      "  manual-debt analyze . --min-days 10                       Hide the ones buckets\n" ++
      "  manual-debt analyze . --fail-on 120                       " ++
      "Exit code 1 at 120+ days (CI mode)\n\n" ++
      "Exit codes:\n" ++
      "  0  analysis finished\n" ++
      "  1  --fail-on threshold reached\n" ++
      "  2  some annotations or files could not be analyzed\n"
  | _ => ""

/-- The commands, for the help on the whole program. -/
def commandList : String :=
  "Commands:\n" ++ columns
    (Level.commands.map (fun c => { head := c.name, about := aboutLevel c }) ++
      [{ head := Level.helpName, about := aboutHelp }]) ++ "\n"

/-- How a level is used. -/
def usage : Level → String
  | .top => programName ++ " [OPTIONS] [PATH] [COMMAND]"
  | level => programName ++ " " ++ level.name ++ " [OPTIONS] [PATH]"

/-- The help on a level. -/
def levelText (level : Level) (long : Bool) : String :=
  let long := long && level == .top
  let items (ps : List Parameter) := itemList long (ps.map (itemOf level long))
  (if long then aboutProgram else aboutLevel level) ++
    "\n\nUsage: " ++ usage level ++ "\n\n" ++
    (if level = .top then commandList else "") ++
    "Arguments:\n" ++ items [.path] ++
    "\nOptions:\n" ++ items level.options ++
    examples level

/-- The help on a topic. -/
def text (topic : HelpTopic) (long : Bool) : String :=
  match topic with
  | .level level => levelText level long
  | .help =>
    aboutHelp ++ "\n\nUsage: " ++ programName ++ " " ++ Level.helpName ++
      " [COMMAND]...\n\nArguments:\n  [COMMAND]...  Print help for the subcommand(s)\n"

end DeclaredDebt.Help
