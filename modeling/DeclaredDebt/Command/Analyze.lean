import DeclaredDebt.Command
import DeclaredDebt.Settings

/-!
# Analysing a path

`FileTree.analyze` reports the debt declared below a path. What the command line does not say is
taken from the settings for the path, and what these do not say has a default. The limit of
declared days is compared with everything that was found, also with what the report does not show.

## Main definitions

* `Plan`: how an analysis is done.
* `Plan.ofOptions`: the plan from the command line, the settings and the defaults.
* `Ending`: how an analysis ended.
* `FileTree.analyzeUnder`: the command under given settings.
* `FileTree.analyze`: the command.
-/

namespace DeclaredDebt

/-- How an analysis is done. -/
structure Plan where
  format : Format
  /-- How many files are read at a time; zero leaves it to the machine. The report does not depend
  on it. -/
  workers : Nat
  failOn? : Option Nat
  minDays? : Option Nat
  exclude : List String
  severity? : Option Severity
  deriving DecidableEq

/-- The format of a report: as the command line says, or else the settings, or else text. -/
def AnalyzeOptions.formatUnder (o : AnalyzeOptions) (s : Settings) : Except UnknownFormat Format :=
  match o.format? with
  | some format => .ok format
  | none => Format.ofName (s.format?.getD Format.text.name)

/-- The plan from the command line, the settings and the defaults. -/
def Plan.ofOptions (workers? : Option Nat) (o : AnalyzeOptions) (s : Settings) :
    Except UnknownFormat Plan :=
  (o.formatUnder s).map fun format =>
    { format
      workers := (workers?.or s.workers?).getD 0
      failOn? := o.failOn?.or s.failOn?
      minDays? := o.minDays?.or s.minDays?
      exclude := s.exclude
      severity? := s.severity? }

/-- How an analysis ended. -/
inductive Ending where
  | complete
  /-- So many things could not be analysed. -/
  | incomplete (errors : Nat)
  /-- The declared days reach the limit. -/
  | overLimit (limit days : Nat)
  deriving DecidableEq

namespace Ending

/-- How an analysis with a report, so many declared days and a limit ended; errors come before the
limit. -/
def ofReport (r : Report) (declaredDays : Nat) (failOn? : Option Nat) : Ending :=
  if r.hasErrors then .incomplete r.errors.length
  else
    match failOn? with
    | none => .complete
    | some limit => if limit ≤ declaredDays then .overLimit limit declaredDays else .complete

def exitCode : Ending → Nat
  | .complete => 0
  | .incomplete _ => 2
  | .overLimit _ _ => 1

/-- What is said about an ending. -/
def message : Ending → String
  | .complete => ""
  | .incomplete errors =>
    "✗ " ++ toString errors ++ " annotation(s) or file(s) could not be analyzed\n"
  | .overLimit limit days =>
    "Failing due to --fail-on=" ++ toString limit ++ " threshold (" ++ toString days ++
      " days declared)\n"

end Ending

/-- When a report is made, as far as it is written down. -/
structure Clock where
  durationMs : Nat
  endTime : String

namespace FileTree

/-- The report of a plan, with everything that was found. -/
def reportFor (t : FileTree) (clock : Clock) (plan : Plan) (path : Path) (recovery : Recovery) :
    Except CommandError Report :=
  match Exclude.parse plan.exclude with
  | .error e => .error (.badPattern e)
  | .ok globs =>
    let analysis : Analysis :=
      { severity? := plan.severity?, workers := plan.workers, recovery }
    match analysis.ofPath clock.durationMs t globs path with
    | .error e => .error (.missingPath e)
    | .ok r => .ok r

/-- Writes a report to where it belongs, and says how the analysis ended. -/
def deliver (t : FileTree) (text : String) (output? : Option Path) (ending : Ending) :
    Except CommandError RunResult :=
  match output? with
  | none =>
    .ok { exitCode := ending.exitCode, stdout := text, stderr := ending.message, tree := t }
  | some output =>
    match t.write output text.toUTF8.data.toList with
    | .error fault => .error (.notWritten output fault)
    | .ok tree =>
      .ok {
        exitCode := ending.exitCode
        stderr := "✓ Report written to " ++ output.text ++ "\n" ++ ending.message
        tree }

/-- Reports the debt declared below a path under some settings. The days are counted before the
report is cut down to what it shows. -/
def analyzeUnder (t : FileTree) (s : Settings) (clock : Clock) (path : Path)
    (workers? : Option Nat) (o : AnalyzeOptions) (recovery : Recovery) :
    Except CommandError RunResult :=
  match Plan.ofOptions workers? o s with
  | .error e => .error (.unknownFormat e)
  | .ok plan =>
    match t.reportFor clock plan path recovery with
    | .error e => .error e
    | .ok r =>
      let shown := plan.minDays?.elim r r.retainMinDays
      t.deliver (plan.format.render clock.endTime shown) o.output?
        (.ofReport shown r.summary.totalDays plan.failOn?)

/-- Reports the debt declared below a path under the settings for it. -/
def analyze (t : FileTree) (clock : Clock) (path : Path) (workers? : Option Nat)
    (o : AnalyzeOptions) (recovery : Recovery) : Except CommandError RunResult :=
  t.analyzeUnder (t.settings path) clock path workers? o recovery

end FileTree

end DeclaredDebt
