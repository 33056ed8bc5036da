import DeclaredDebt.Json.Decode
import DeclaredDebt.Proofs.JsonText
import DeclaredDebt.Proofs.Provenance
import DeclaredDebt.Report.Sarif

/-!
# What a SARIF document shows

The SARIF text of a report is read as one document with one run, and everything in the report can be
found in it: a result for each diagnostic, in order and with the diagnostic's own texts and numbers,
and a remark for each error. A result points into the list of rules by an index; the index and the
list come from the same registry, so it points at the rule that the result names. In a report that
an analysis produced every diagnostic is that of a registered bucket, so there the rule always
exists and has the cost of the result.

## Main definitions

* `Json.lookup?`: what is found by going from member to member.
* `Sarif.ShowsDiagnostic`, `Sarif.ShowsRemark`, `Sarif.Shows`: what is found in a document.
* `Sarif.Priced`: a result that points at a rule of its own cost.
-/

namespace DeclaredDebt

namespace Json

/-- The only member of an object with a name. -/
def member? (v : Json) (name : String) : Option Json :=
  match v with
  | .object members => (onlyMember members name).join
  | _ => none

/-- What is found by going from member to member. -/
def lookup? (v : Json) (names : List String) : Option Json := names.foldlM member? v

end Json

namespace Sarif

/-- A result shows a diagnostic. It has an index exactly if the rule of the diagnostic is
registered, and the index is then that of a rule with the same identifier. -/
structure ShowsDiagnostic (rules : List Json) (d : Diagnostic) (v : Json) : Prop where
  ruleId : v.lookup? ["ruleId"] = some (.string d.ruleId)
  message : v.lookup? ["message", "text"] = some (.string d.message)
  location : ∃ l, v.lookup? ["locations"] = some (.array [l]) ∧
    l.lookup? ["physicalLocation", "artifactLocation", "uri"] =
      some (.string d.location.file.text) ∧
    l.lookup? ["physicalLocation", "region", "startLine"] = some (.nat d.location.line) ∧
    l.lookup? ["physicalLocation", "region", "startColumn"] = some (.nat d.location.column)
  fingerprint : v.lookup? ["fingerprints", "manual-debt/diagnostic/v1"] = some (.string d.id)
  days : v.lookup? ["properties", "remediationCostDays"] = some (.nat d.days)
  displayName : v.lookup? ["properties", "attribute"] = some (.string d.displayName)
  isSome_ruleIndex :
    (v.lookup? ["ruleIndex"]).isSome = true ↔ d.ruleId ∈ Bucket.registry.map Bucket.identifier
  ruleIndex : ∀ index, v.lookup? ["ruleIndex"] = some index →
    ∃ i rule, index = .nat i ∧ rules[i]? = some rule ∧
      rule.lookup? ["id"] = some (.string d.ruleId)

/-- A result points at a rule of its own cost. -/
def Priced (rules : List Json) (v : Json) : Prop :=
  ∃ i rule days, v.lookup? ["ruleIndex"] = some (.nat i) ∧ rules[i]? = some rule ∧
    rule.lookup? ["properties", "remediationCostDays"] = some (.nat days) ∧
    v.lookup? ["properties", "remediationCostDays"] = some (.nat days)

/-- A remark of the invocation with its level, its text and the name of its kind. -/
structure ShowsRemark (level text id : String) (v : Json) : Prop where
  level : v.lookup? ["level"] = some (.string level)
  message : v.lookup? ["message", "text"] = some (.string text)
  descriptor : v.lookup? ["descriptor", "id"] = some (.string id)

/-- A run shows a report, with the given rules and results. -/
structure Shows (r : Report) (run : Json) (rules results : List Json) : Prop where
  rules_eq : run.lookup? ["tool", "driver", "rules"] = some (.array rules)
  results_eq : run.lookup? ["results"] = some (.array results)
  diagnostics : List.Forall₂ (ShowsDiagnostic rules) r.diagnostics results
  invocation : ∃ invocation summary errors successful,
    run.lookup? ["invocations"] = some (.array [invocation]) ∧
    invocation.lookup? ["executionSuccessful"] = some (.bool successful) ∧
    (successful = true ↔ r.errors = []) ∧
    invocation.lookup? ["toolExecutionNotifications"] = some (.array (summary :: errors)) ∧
    ShowsRemark "note" (summaryText r) "summary" summary ∧
    List.Forall₂
      (fun e => ShowsRemark "error" (e.file.text ++ ": " ++ e.message) "analysis-error")
      r.errors errors

end Sarif

/-! ## The index of a rule -/

namespace Sarif

/-- A rule has an index exactly if it is registered. -/
theorem isSome_ruleIndex? (ruleId : String) :
    (ruleIndex? ruleId).isSome = true ↔ ruleId ∈ Bucket.registry.map Bucket.identifier := by
  simp [ruleIndex?, List.findIdx?_isSome]

/-- The index of a rule is the place of its bucket in the registry. -/
theorem getElem?_of_ruleIndex? {ruleId : String} {i : ℕ} (h : ruleIndex? ruleId = some i) :
    ∃ b, Bucket.registry[i]? = some b ∧ b.identifier = ruleId := by
  obtain ⟨hi, hb, -⟩ := List.findIdx?_eq_some_iff_getElem.1 h
  exact ⟨Bucket.registry[i], List.getElem?_eq_getElem hi, beq_iff_eq.1 hb⟩

/-! ## Members found in a document -/

/-- A result has the index of its rule, if the rule has one. -/
theorem lookup?_ruleIndex (d : Diagnostic) :
    (result d).lookup? ["ruleIndex"] = (ruleIndex? d.ruleId).map Json.nat := by
  cases hindex : ruleIndex? d.ruleId <;>
    simp [result, hindex, Json.lookup?, Json.member?, Json.onlyMember]

theorem lookup?_rule_id (b : Bucket) :
    (rule b).lookup? ["id"] = some (.string b.identifier) := by
  simp [rule, Json.lookup?, Json.member?, Json.onlyMember]

theorem lookup?_rule_days (b : Bucket) :
    (rule b).lookup? ["properties", "remediationCostDays"] = some (.nat b.days) := by
  simp [rule, Json.lookup?, Json.member?, Json.onlyMember]

/-- The members of a result, which are the same whether or not there is an index among them. -/
theorem lookup?_result (d : Diagnostic) :
    (result d).lookup? ["ruleId"] = some (.string d.ruleId) ∧
    (result d).lookup? ["message", "text"] = some (.string d.message) ∧
    (result d).lookup? ["locations"] = some (.array [location d.location]) ∧
    (result d).lookup? ["fingerprints", "manual-debt/diagnostic/v1"] = some (.string d.id) ∧
    (result d).lookup? ["properties", "remediationCostDays"] = some (.nat d.days) ∧
    (result d).lookup? ["properties", "attribute"] = some (.string d.displayName) := by
  cases hindex : ruleIndex? d.ruleId <;>
    simp [result, hindex, Json.lookup?, Json.member?, Json.onlyMember, message, fingerprintName]

theorem lookup?_location (l : Location) :
    (location l).lookup? ["physicalLocation", "artifactLocation", "uri"] =
      some (.string l.file.text) ∧
    (location l).lookup? ["physicalLocation", "region", "startLine"] = some (.nat l.line) ∧
    (location l).lookup? ["physicalLocation", "region", "startColumn"] = some (.nat l.column) := by
  simp [location, Json.lookup?, Json.member?, Json.onlyMember]

/-- A result shows its diagnostic. -/
theorem showsDiagnostic_result (d : Diagnostic) :
    ShowsDiagnostic (Bucket.registry.map rule) d (result d) := by
  obtain ⟨hrule, hmessage, hlocations, hfingerprint, hdays, hname⟩ := lookup?_result d
  refine ⟨hrule, hmessage, ⟨_, hlocations, lookup?_location d.location⟩, hfingerprint, hdays, hname,
    ?_, ?_⟩
  · rw [lookup?_ruleIndex, Option.isSome_map, isSome_ruleIndex?]
  · intro index h
    rw [lookup?_ruleIndex, Option.map_eq_some_iff] at h
    obtain ⟨i, hi, rfl⟩ := h
    obtain ⟨b, hb, hid⟩ := getElem?_of_ruleIndex? hi
    refine ⟨i, rule b, rfl, ?_, ?_⟩
    · rw [List.getElem?_map, hb, Option.map_some]
    · rw [lookup?_rule_id, hid]

/-- The rule that a registered diagnostic points at has the cost of the diagnostic, since no two
buckets share an identifier. -/
theorem priced_result {d : Diagnostic} (h : d.OfRegistry) :
    Priced (Bucket.registry.map rule) (result d) := by
  obtain ⟨b, hb, severity?, location, displayName, rfl⟩ := h
  set d := Diagnostic.ofBucket severity? location displayName b with hd
  have hsome : (ruleIndex? d.ruleId).isSome = true :=
    (isSome_ruleIndex? _).2 (List.mem_map.2 ⟨b, hb, rfl⟩)
  obtain ⟨i, hi⟩ := Option.isSome_iff_exists.1 hsome
  obtain ⟨b', hb', hid⟩ := getElem?_of_ruleIndex? hi
  have hdays : b'.days = d.days := Bucket.identifierFor_injective hid
  obtain ⟨-, -, -, -, hcost, -⟩ := lookup?_result d
  refine ⟨i, rule b', d.days, ?_, ?_, ?_, hcost⟩
  · rw [lookup?_ruleIndex, hi, Option.map_some]
  · rw [List.getElem?_map, hb', Option.map_some]
  · rw [lookup?_rule_days, hdays]

theorem showsRemark_notification (level text id : String) :
    ShowsRemark level text id (notification level text id) where
  level := by simp [notification, Json.lookup?, Json.member?, Json.onlyMember]
  message := by simp [notification, Json.lookup?, Json.member?, Json.onlyMember, message]
  descriptor := by simp [notification, Json.lookup?, Json.member?, Json.onlyMember]

/-! ## The document as a whole -/

theorem plain_document (endTime : String) (r : Report) : (document endTime r).Plain := by
  have hresult : ∀ d : Diagnostic, (result d).Plain := by
    intro d
    cases hindex : ruleIndex? d.ruleId <;> simp [result, hindex, location, message, Json.Plain]
  simp [document, rule, hresult, notifications, notification, message, Json.Plain]

/-- A document has one run, and the run shows the report. -/
theorem exists_run_shows (endTime : String) (r : Report) :
    ∃ run, (document endTime r).lookup? ["runs"] = some (.array [run]) ∧
      Shows r run (Bucket.registry.map rule) (r.diagnostics.map result) := by
  refine ⟨_, rfl, rfl, rfl, ?_, _, notification "note" (summaryText r) "summary", _, _, rfl, rfl,
    ?_, rfl, showsRemark_notification _ _ _, ?_⟩
  · exact List.forall₂_map_right_iff.2 (List.forall₂_same.2 fun d _ => showsDiagnostic_result d)
  · simp [Report.hasErrors]
  · exact List.forall₂_map_right_iff.2
      (List.forall₂_same.2 fun e _ => showsRemark_notification _ _ _)

/-- **A SARIF text shows its report.** Whatever the texts of the report are, its SARIF text is read
as one document with one run, which shows every diagnostic and every error in order. In a report
that an analysis produced, every result points at a rule of its own cost. -/
theorem render_shows_report (endTime : String) (r : Report) :
    ∃ doc run rules results, Json.read? (render endTime r) = some doc ∧
      doc.lookup? ["runs"] = some (.array [run]) ∧ Shows r run rules results ∧
      (r.Produced → ∀ v ∈ results, Priced rules v) := by
  obtain ⟨run, hrun, hshows⟩ := exists_run_shows endTime r
  refine ⟨document endTime r, run, _, _, Json.read?_pretty (plain_document endTime r), hrun, hshows,
    ?_⟩
  intro hproduced v hv
  obtain ⟨d, hd, rfl⟩ := List.mem_map.1 hv
  exact priced_result (hproduced.ofRegistry d hd)

end Sarif

/-- Both results for the debt of a small source point at rules of their own costs. -/
theorem sarif_twoTierSource_priced :
    ∃ doc run rules results,
      Json.read? (Sarif.render "" (({} : Analysis).ofSource 0 ⟨"a.cs"⟩ twoTierSource)) = some doc ∧
      doc.lookup? ["runs"] = some (.array [run]) ∧
      run.lookup? ["results"] = some (.array results) ∧ results.length = 2 ∧
      ∀ v ∈ results, Sarif.Priced rules v := by
  obtain ⟨doc, run, rules, results, hread, hrun, hshows, hpriced⟩ :=
    Sarif.render_shows_report "" (({} : Analysis).ofSource 0 ⟨"a.cs"⟩ twoTierSource)
  refine ⟨doc, run, rules, results, hread, hrun, hshows.results_eq, ?_, hpriced (.source _ _ _ _)⟩
  rw [← hshows.diagnostics.length_eq, length_diagnostics_twoTierSource]

end DeclaredDebt
