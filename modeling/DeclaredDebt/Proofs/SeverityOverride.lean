import DeclaredDebt.Proofs.SarifDocument

/-!
# An override changes severities and nothing else

An analysis can report every diagnostic at one severity instead of the one of its bucket. A severity
is written into a diagnostic and not read again until the report is rendered: identifiers, the order
of diagnostics, counts and errors are all made from other parts. So to replace the severities
commutes with everything that is done to diagnostics on the way to a report, and an analysis with an
override yields the report without it, in which the severities have been replaced.

## Main definitions

* `Diagnostic.withSeverity`, `Outcome.withSeverity`, `Report.withSeverity`: the same with another
  severity throughout.
* `Sarif.SameRulesAtLevel`: two SARIF texts with the same rules, the second at one level throughout.
* `Report.OverriddenBy`: a report and what an override makes of it.
-/

namespace DeclaredDebt

/-! ## Replacing severities -/

/-- A diagnostic at another severity. -/
def Diagnostic.withSeverity (s : Severity) (d : Diagnostic) : Diagnostic := { d with severity := s }

/-- An outcome with all its diagnostics at another severity. -/
def Outcome.withSeverity (s : Severity) (o : Outcome) : Outcome :=
  { o with diagnostics := o.diagnostics.map (Diagnostic.withSeverity s) }

/-- A report with all its diagnostics at another severity, and everything else as it was. -/
def Report.withSeverity (s : Severity) (r : Report) : Report :=
  { r with diagnostics := r.diagnostics.map (Diagnostic.withSeverity s) }

namespace Diagnostic

/-- The severity of a bucket has no part in the rest of its diagnostic. -/
theorem ofBucket_some (s : Severity) (location : Location) (displayName : String) (b : Bucket) :
    ofBucket (some s) location displayName b =
      (ofBucket none location displayName b).withSeverity s := by
  simp only [ofBucket, withSeverity, Option.getD_some]

/-- Diagnostics are put in order by their places. -/
theorem notAfter_withSeverity (s : Severity) (d e : Diagnostic) :
    notAfter (d.withSeverity s) (e.withSeverity s) = notAfter d e := rfl

end Diagnostic

theorem Debt.diagnostics_some (s : Severity) (d : Debt) :
    d.diagnostics (some s) = (d.diagnostics none).map (Diagnostic.withSeverity s) := by
  simp only [diagnostics, List.map_map, Function.comp_def, Diagnostic.ofBucket_some]

/-- A summary counts days, rules and files. -/
theorem Summary.ofDiagnostics_withSeverity (s : Severity) (ds : List Diagnostic) :
    ofDiagnostics (ds.map (Diagnostic.withSeverity s)) = ofDiagnostics ds := by
  simp [ofDiagnostics, Function.comp_def, Diagnostic.withSeverity]

/-! ## From usages to reports -/

theorem Outcome.ofUsages_some (s : Severity) (file : Path) (usages : List Usage) :
    ofUsages (some s) file usages = (ofUsages none file usages).withSeverity s := by
  have hdiagnostics : Debt.diagnostics (some s) =
      fun d => (d.diagnostics none).map (Diagnostic.withSeverity s) :=
    funext (Debt.diagnostics_some s)
  simp only [ofUsages, withSeverity, List.map_flatMap, hdiagnostics]

/-- Replacing severities commutes with sorting and summing up. -/
theorem Report.ofOutcomes_withSeverity (s : Severity) (filesAnalyzed durationMs : ℕ)
    (outcomes : List Outcome) :
    ofOutcomes filesAnalyzed durationMs (outcomes.map (Outcome.withSeverity s)) =
      (ofOutcomes filesAnalyzed durationMs outcomes).withSeverity s := by
  have hsorted : ((outcomes.flatMap (·.diagnostics)).map
        (Diagnostic.withSeverity s)).mergeSort Diagnostic.notAfter =
      ((outcomes.flatMap (·.diagnostics)).mergeSort Diagnostic.notAfter).map
        (Diagnostic.withSeverity s) :=
    (List.map_mergeSort fun d _ e _ => (Diagnostic.notAfter_withSeverity s d e).symm).symm
  have hdiagnostics : (outcomes.map (Outcome.withSeverity s)).flatMap (·.diagnostics) =
      (outcomes.flatMap (·.diagnostics)).map (Diagnostic.withSeverity s) := by
    rw [List.flatMap_map, List.map_flatMap]
    rfl
  simp only [ofOutcomes, withSeverity, hdiagnostics, hsorted, Summary.ofDiagnostics_withSeverity,
    List.flatMap_map, List.map_map, Function.comp_def, Outcome.withSeverity]

namespace Analysis

variable (a : Analysis) (s : Severity)

theorem outcome_override (file : Path) (usages : List Usage) :
    outcome { a with severity? := some s } file usages =
      (outcome { a with severity? := none } file usages).withSeverity s := by
  simp only [outcome_eq, Outcome.ofUsages_some]

/-- The override reaches the diagnostics of every file; a file that cannot be read has none. -/
theorem outcomeOfFile_override (t : FileTree) (file : Path) :
    outcomeOfFile { a with severity? := some s } t file =
      (outcomeOfFile { a with severity? := none } t file).withSeverity s := by
  unfold outcomeOfFile
  dsimp only
  cases t.parseFile file a.recovery with
  | ok parsed => exact outcome_override a s file parsed.usages
  | error fault => rfl

theorem ofSource_override (durationMs : ℕ) (file : Path) (source : List Char) :
    ofSource { a with severity? := some s } durationMs file source =
      (ofSource { a with severity? := none } durationMs file source).withSeverity s := by
  simp only [ofSource, ofUsages, outcome_override]
  exact Report.ofOutcomes_withSeverity s 1 durationMs [_]

theorem ofPath_override (durationMs : ℕ) (t : FileTree) (globs : List (List Glob.Piece))
    (root : Path) :
    ofPath { a with severity? := some s } durationMs t globs root =
      (ofPath { a with severity? := none } durationMs t globs root).map
        (Report.withSeverity s) := by
  unfold ofPath
  cases t.collect globs root with
  | error e => rfl
  | ok files =>
    have houtcomes : outcomeOfFile { a with severity? := some s } t =
        Outcome.withSeverity s ∘ outcomeOfFile { a with severity? := none } t :=
      funext (outcomeOfFile_override a s t)
    simp only [Except.map, Except.ok.injEq, houtcomes]
    rw [← Report.ofOutcomes_withSeverity, List.map_map]

end Analysis

/-! ## SARIF -/

namespace Sarif

/-- The SARIF texts of two reports, whenever they are written, have the same rules, and every result
in the second has the level of one severity. -/
def SameRulesAtLevel (s : Severity) (r r' : Report) : Prop :=
  ∀ endTime endTime', ∃ doc doc' run run' rules results',
    Json.read? (render endTime r) = some doc ∧ Json.read? (render endTime' r') = some doc' ∧
    doc.lookup? ["runs"] = some (.array [run]) ∧ doc'.lookup? ["runs"] = some (.array [run']) ∧
    run.lookup? ["tool", "driver", "rules"] = some (.array rules) ∧
    run'.lookup? ["tool", "driver", "rules"] = some (.array rules) ∧
    run'.lookup? ["results"] = some (.array results') ∧
    results'.length = r'.diagnostics.length ∧
    ∀ v ∈ results', v.lookup? ["level"] = some (.string (level s))

theorem lookup?_level (d : Diagnostic) :
    (result d).lookup? ["level"] = some (.string (level d.severity)) := by
  cases hindex : ruleIndex? d.ruleId <;>
    simp [result, hindex, Json.lookup?, Json.member?, Json.onlyMember]

/-- The rules do not depend on the report, and the level of a result is that of its diagnostic. -/
theorem sameRulesAtLevel {s : Severity} (r : Report) {r' : Report}
    (h : ∀ d ∈ r'.diagnostics, d.severity = s) : SameRulesAtLevel s r r' := by
  intro endTime endTime'
  obtain ⟨run, hrun, hshows⟩ := exists_run_shows endTime r
  obtain ⟨run', hrun', hshows'⟩ := exists_run_shows endTime' r'
  refine ⟨_, _, run, run', _, _, Json.read?_pretty (plain_document endTime r),
    Json.read?_pretty (plain_document endTime' r'), hrun, hrun', hshows.rules_eq, hshows'.rules_eq,
    hshows'.results_eq, List.length_map _, ?_⟩
  intro v hv
  obtain ⟨d, hd, rfl⟩ := List.mem_map.1 hv
  rw [lookup?_level, h d hd]

end Sarif

/-! ## The override as a whole -/

namespace Report

/-- What an override makes of a report: the same with other severities, the time it took apart; and
in SARIF the same rules with all results at the level of the override. -/
structure OverriddenBy (s : Severity) (r r' : Report) : Prop where
  untimed_eq : r'.untimed = (r.withSeverity s).untimed
  sarif : Sarif.SameRulesAtLevel s r r'

theorem overriddenBy {s : Severity} {r r' : Report}
    (h : r'.untimed = (r.withSeverity s).untimed) : OverriddenBy s r r' where
  untimed_eq := h
  sarif := by
    refine Sarif.sameRulesAtLevel r ?_
    intro d hd
    have hdiagnostics : r'.diagnostics = r.diagnostics.map (Diagnostic.withSeverity s) :=
      congrArg Report.diagnostics h
    rw [hdiagnostics] at hd
    obtain ⟨e, -, rfl⟩ := List.mem_map.1 hd
    rfl

end Report

/-- **An override changes severities and nothing else.** On every source, and on every path of every
file tree, an analysis with an override reports what it reports without, in which each diagnostic
has the severity of the override; a path that cannot be analysed fails alike. The check can be
registered any number of times, and the two runs may take different times. -/
theorem Analysis.override_changes_severities_only (a : Analysis) (s : Severity)
    (durationMs durationMs' : ℕ) :
    let plain : Analysis := { a with severity? := none }
    let overriding : Analysis := { a with severity? := some s }
    (∀ file source, Report.OverriddenBy s (plain.ofSource durationMs file source)
      (overriding.ofSource durationMs' file source)) ∧
    ∀ t globs root,
      match plain.ofPath durationMs t globs root, overriding.ofPath durationMs' t globs root with
      | .ok r, .ok r' => Report.OverriddenBy s r r'
      | .error e, .error e' => e' = e
      | _, _ => False := by
  intro plain overriding
  constructor
  · intro file source
    refine Report.overriddenBy ?_
    rw [ofSource_override]
    rfl
  · intro t globs root
    rw [ofPath_override, ofPath, ofPath]
    cases t.collect globs root with
    | error e => rfl
    | ok files => exact Report.overriddenBy rfl

end DeclaredDebt
