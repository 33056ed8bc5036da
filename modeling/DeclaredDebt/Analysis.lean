import DeclaredDebt.Debt
import DeclaredDebt.Report

/-!
# Analysis of attribute usages

Every usage that declares debt gives one diagnostic per bucket of its cost, which is reported to a
sink. A check can be registered several times; each registration then sees each usage. A usage that
cannot be analysed is recorded as an error of its file, and the others are not affected.

## Main definitions

* `Finding`: what comes of one usage.
* `examine`: the finding for a usage.
* `Sink`: where diagnostics are reported to; `Sink.analyze` reports those of a usage.
* `Visit`: how far the usages of a file have been gone through.
* `Outcome`: what one file contributes; `Analysis.outcome` computes it from the usages.
* `Report.ofOutcomes`: the report over the outcomes of all files; `Analysis.ofUsages` is the one on
  a single file.
-/

namespace DeclaredDebt

/-- What comes of one usage: the debt it declares, if any, and the buckets to report. -/
structure Finding where
  debt? : Option Debt
  buckets : List Bucket
  deriving DecidableEq

/-- Examines one usage. -/
def examine (u : Usage) : Except DebtError Finding :=
  match u.debt? with
  | .error e => .error e
  | .ok none => .ok ⟨none, []⟩
  | .ok (some debt) =>
    match bucketsFor debt.days with
    | .ok buckets => .ok ⟨some debt, buckets⟩
    | .error e => .error (.unknownBucket e)

/-- The diagnostics for a finding. -/
def Finding.diagnostics (severity? : Option Severity) (f : Finding) : List Diagnostic :=
  match f.debt? with
  | none => []
  | some debt => f.buckets.map (Diagnostic.ofBucket severity? debt.location debt.displayName)

/-- Where diagnostics are reported to, with those reported so far. -/
structure Sink where
  /-- The severity of every diagnostic, in place of the bucket's own. -/
  severity? : Option Severity := none
  reports : List Diagnostic := []
  deriving DecidableEq

namespace Sink

/-- Takes the report of a bucket of a debt. -/
def report (sink : Sink) (debt : Debt) (bucket : Bucket) : Sink :=
  { sink with
    reports := sink.reports ++
      [Diagnostic.ofBucket sink.severity? debt.location debt.displayName bucket] }

/-- Analyses one usage: the debt it declares, if any, and the sink with its buckets reported one
after the other. -/
def analyze (sink : Sink) (u : Usage) : Except DebtError (Option Debt) × Sink :=
  match examine u with
  | .error e => (.error e, sink)
  | .ok ⟨none, _⟩ => (.ok none, sink)
  | .ok ⟨some debt, buckets⟩ => (.ok (some debt), buckets.foldl (·.report debt) sink)

end Sink

/-- What one file contributes to a report. -/
structure Outcome where
  diagnostics : List Diagnostic := []
  matched : Nat := 0
  errors : List FileError := []
  deriving DecidableEq

/-- The contribution of a file that could not be read. -/
def Outcome.unreadable (file : Path) (message : String) : Outcome :=
  { errors := [⟨file, message⟩] }

/-- How far the usages of a file have been gone through: the sink, the number of usages that declare
debt, and the errors. -/
structure Visit where
  sink : Sink
  matched : Nat := 0
  errors : List FileError := []
  deriving DecidableEq

namespace Visit

/-- Goes on to one more usage of a file. -/
def next (file : Path) (v : Visit) (u : Usage) : Visit :=
  match v.sink.analyze u with
  | (.error e, sink) => { v with sink, errors := v.errors ++ [⟨file, e.message⟩] }
  | (.ok none, sink) => { v with sink }
  | (.ok (some _), sink) => { v with sink, matched := v.matched + 1 }

/-- What has come of a file in the end. -/
def outcome (v : Visit) : Outcome := ⟨v.sink.reports, v.matched, v.errors⟩

end Visit

/-- How an analysis is done. -/
structure Analysis where
  /-- How many times the check is registered. -/
  registrations : Nat := 1
  /-- The severity of every diagnostic, in place of the bucket's own. -/
  severity? : Option Severity := none
  /-- How many files are read at a time; zero leaves it to the machine. -/
  workers : Nat := 0
  /-- What is found in sources with syntax errors. -/
  recovery : Recovery := .empty

/-- What the usages of one file contribute. -/
def Analysis.outcome (a : Analysis) (file : Path) (usages : List Usage) : Outcome :=
  ((usages.flatMap (List.replicate a.registrations)).foldl (Visit.next file)
    { sink := { severity? := a.severity? } }).outcome

/-- The report over the outcomes of some files. Diagnostics are put in the order of their places and
errors in the order of their files; what stands at one place keeps its order. -/
def Report.ofOutcomes (filesAnalyzed durationMs : Nat) (outcomes : List Outcome) : Report :=
  let diagnostics := (outcomes.flatMap (·.diagnostics)).mergeSort Diagnostic.notAfter
  { diagnostics
    summary := Summary.ofDiagnostics diagnostics
    filesAnalyzed
    annotationsMatched := (outcomes.map (·.matched)).foldr (· + ·) 0
    errors := (outcomes.flatMap (·.errors)).mergeSort fun a b => a.file.le b.file
    durationMs }

/-- The report on the usages of a single file. -/
def Analysis.ofUsages (a : Analysis) (durationMs : Nat) (file : Path) (usages : List Usage) :
    Report :=
  Report.ofOutcomes 1 durationMs [a.outcome file usages]

end DeclaredDebt
