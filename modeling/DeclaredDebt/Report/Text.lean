import DeclaredDebt.Report

/-!
# Reports for a terminal

A report as lines of text with colours: a heading with the totals, a table of the first
diagnostics, the counts by rule, and the errors. A report with neither diagnostics nor errors ends
with a line that says so.
-/

namespace DeclaredDebt.TextReport

/-! ## Colours and columns -/

/-- A terminal control sequence. -/
def control (code : String) : String := "\x1b[" ++ code ++ "m"

def reset : String := control "0"

def bold : String := control "1"

def dim : String := control "2"

/-- A line in a colour, with its end. -/
def dimLine (text : String) : String := dim ++ text ++ reset ++ "\n"

/-- A text filled up on the right to a number of characters. -/
def padRight (width : Nat) (text : String) : String :=
  text ++ String.ofList (List.replicate (width - text.length) ' ')

/-- A text filled up on the left to a number of characters. -/
def padLeft (width : Nat) (text : String) : String :=
  String.ofList (List.replicate (width - text.length) ' ') ++ text

/-- A horizontal line. -/
def rule (width : Nat) : String := String.ofList (List.replicate width '─')

def severityColor : Severity → String
  | .error => control "31"
  | .warning => control "33"
  | .info => control "34"

def severityTag : Severity → String
  | .error => "[E]"
  | .warning => "[W]"
  | .info => "[I]"

/-- The colour of the total: green for none, yellow below thirty days, red from there on. -/
def daysColor (days : Nat) : String :=
  if days = 0 then control "32" else if days < 30 then control "33" else control "31"

/-! ## The parts of a report -/

/-- The most diagnostics that are listed. -/
def maxListed : Nat := 50

/-- The most characters of a file that are shown. -/
def maxFileWidth : Nat := 40

/-- The width of the column of rules. -/
def ruleWidth : Nat := 18

/-- A file's text, with dots in place of its start when it is too long. -/
def shortFile (file : String) : String :=
  if maxFileWidth < file.length then
    "..." ++ String.ofList (file.toList.drop (file.length - (maxFileWidth - 3)))
  else file

/-- Where a diagnostic stands. -/
def place (l : Location) : String :=
  shortFile l.file.text ++ ":" ++ toString l.line ++ ":" ++ toString l.column

/-- The line of a diagnostic in the table. -/
def row (d : Diagnostic) : String :=
  "  " ++ severityColor d.severity ++ severityTag d.severity ++ reset ++ "  " ++
    padLeft 4 (toString d.days) ++ "  " ++ padRight ruleWidth d.ruleId ++ " " ++ dim ++
    place d.location ++ reset ++ "\n"

/-- The heading with the totals. -/
def heading (r : Report) : String :=
  "\n" ++ bold ++ "Manual Technical Debt" ++ reset ++ "\n" ++ dimLine (rule 38) ++
    "Total: " ++ daysColor r.summary.totalDays ++ bold ++ toString r.summary.totalDays ++ " days" ++
    reset ++ "  Diagnostics: " ++ toString r.summary.total ++ "  Annotations: " ++
    toString r.annotationsMatched ++ "  Files: " ++ toString r.summary.filesWithDebt ++ "/" ++
    toString r.filesAnalyzed ++ "\n\n"

/-- The table of diagnostics. -/
def table (diagnostics : List Diagnostic) : String :=
  if diagnostics.isEmpty then ""
  else
    let hidden := diagnostics.length - maxListed
    dimLine "  SEV  DAYS  RULE               LOCATION" ++ dimLine ("  " ++ rule 65) ++
      String.join ((diagnostics.take maxListed).map row) ++
      (if hidden = 0 then ""
        else "\n  " ++ dimLine ("...and " ++ toString hidden ++
          " more (use --format json for the full list)")) ++
      "\n"

/-- The counts by rule. -/
def counts (byRule : Tally) : String :=
  if byRule.entries.isEmpty then ""
  else
    bold ++ "BY RULE" ++ reset ++ "\n" ++
      String.join (byRule.entries.map fun e =>
        "  " ++ padRight ruleWidth e.1 ++ " " ++ toString e.2 ++ "\n") ++ "\n"

/-- The errors. -/
def errors (es : List FileError) : String :=
  if es.isEmpty then ""
  else
    bold ++ control "31" ++ "ERRORS" ++ reset ++ " (" ++ toString es.length ++ ")\n" ++
      String.join (es.map fun e => "  " ++ e.file.text ++ ": " ++ e.message ++ "\n") ++ "\n"

/-- The line that says that there is nothing to report. -/
def closing (r : Report) : String :=
  if r.diagnostics.isEmpty && !r.hasErrors then dimLine "No manual technical debt declared." else ""

/-- A report as text. -/
def render (r : Report) : String :=
  heading r ++ table r.diagnostics ++ counts r.summary.byRule ++ errors r.errors ++ closing r

/-! ## The list of rules -/

/-- The line of a bucket in the list of rules. -/
def ruleRow (b : Bucket) : String :=
  "  " ++ padRight ruleWidth b.identifier ++ " " ++ padLeft 4 (toString b.days) ++ "  " ++
    padRight 8 Bucket.defaultSeverity.name ++ "  " ++ Bucket.category ++ "\n"

/-- The list of all rules. -/
def renderRules : String :=
  "\n" ++ bold ++ "Registered diagnostics" ++ reset ++ " (" ++ toString Bucket.registry.length ++
    ")\n" ++ dimLine "  RULE               DAYS  SEVERITY  CATEGORY" ++
    String.join (Bucket.registry.map ruleRow)

end DeclaredDebt.TextReport
