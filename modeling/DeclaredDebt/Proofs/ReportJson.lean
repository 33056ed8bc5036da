import DeclaredDebt.Proofs.JsonText
import DeclaredDebt.Report.Json

/-!
# Reports read back from JSON

A report written as JSON can be read again, and what is read is the report that was written. The
text gives back the value, and each record gives back its parts: an object with the names of a
record is taken apart into its members, and a tally that was in order before it was written is put
together in the same order.

## Main definitions

* `Report.Fits`: every number of a report is in its range.
-/

namespace DeclaredDebt

/-! ## Numbers in their ranges -/

/-- Every number of a location is in its range. -/
structure Location.Fits (l : Location) : Prop where
  line : l.line < 2 ^ 32
  column : l.column < 2 ^ 32
  startByte : l.startByte < 2 ^ 64
  endByte : l.endByte < 2 ^ 64

/-- Every number of a diagnostic is in its range. -/
structure Diagnostic.Fits (d : Diagnostic) : Prop where
  days : d.days < 2 ^ 32
  location : d.location.Fits

/-- Every number of a summary is in its range. -/
structure Summary.Fits (s : Summary) : Prop where
  total : s.total < 2 ^ 64
  totalDays : s.totalDays < 2 ^ 64
  byRule : ∀ e ∈ s.byRule.entries, e.2 < 2 ^ 64
  filesWithDebt : s.filesWithDebt < 2 ^ 64

/-- Every number of a report is in its range. -/
structure Report.Fits (r : Report) : Prop where
  diagnostics : ∀ d ∈ r.diagnostics, d.Fits
  summary : r.summary.Fits
  filesAnalyzed : r.filesAnalyzed < 2 ^ 64
  annotationsMatched : r.annotationsMatched < 2 ^ 64
  durationMs : r.durationMs < 2 ^ 64

/-! ## Reading records -/

namespace Json

theorem onlyMember_of_mem {members : List (String × Json)} (h : (members.map Prod.fst).Nodup)
    {m : String × Json} (hm : m ∈ members) : onlyMember members m.1 = some (some m.2) := by
  induction members with
  | nil => simp at hm
  | cons n members ih =>
    obtain ⟨hn, hrest⟩ := List.nodup_cons.1 h
    unfold onlyMember
    rcases List.mem_cons.1 hm with rfl | hm
    · have hnone : members.filter (·.1 == m.1) = [] := by
        refine List.filter_eq_nil_iff.2 ?_
        intro m' hm' hname
        exact hn (List.mem_map.2 ⟨m', hm', beq_iff_eq.1 hname⟩)
      simp [hnone]
    · have hname : (n.1 == m.1) = false := by
        refine beq_false_of_ne ?_
        intro hname
        exact hn (List.mem_map.2 ⟨m, hm, hname.symm⟩)
      rw [List.filter_cons_of_neg (by simp [hname])]
      exact ih hrest hm

/-- An object with exactly the names of a record is taken apart into its members. -/
theorem record?_object {names : List String} {members : List (String × Json)}
    (hnames : members.map Prod.fst = names) (h : names.Nodup) :
    (Json.object members).record? names = some (members.map fun m => some m.2) := by
  subst hnames
  exact mapM_map_eq_some fun m hm => onlyMember_of_mem h hm

theorem asNat?_nat (limit : ℕ) {n : ℕ} (h : n < limit) : (Json.nat n).asNat? limit = some n := by
  simp [asNat?, h]

/-- A list of which every element is read back is read back. -/
theorem asList?_map {α : Type} {write : α → Json} {read : Json → Option α} {l : List α}
    (h : ∀ x ∈ l, read (write x) = some x) : (Json.array (l.map write)).asList? read = some l := by
  rw [asList?, mapM_map_eq_some (f := id) h, List.map_id]

end Json

/-! ## Tallies -/

namespace Tally

/-- A name above all others goes to the end. -/
theorem updateEntries_of_lt {name : String} (f : Option ℕ → ℕ) {l : List (String × ℕ)}
    (h : ∀ e ∈ l, e.1 < name) : updateEntries name f l = l ++ [(name, f none)] := by
  induction l with
  | nil => rfl
  | cons e l ih =>
    have he : e.1 < name := h e (by simp)
    have hne : name ≠ e.1 := fun heq => String.lt_irrefl _ (heq ▸ he)
    rw [updateEntries, if_neg (String.lt_asymm he), if_neg hne,
      ih fun e' he' => h e' (by simp [he']), List.cons_append]

/-- Counts that come in the order of their names go one behind the other. -/
theorem entries_foldl_set (entries : List (String × ℕ)) (t : Tally)
    (h : (t.entries ++ entries).Pairwise fun a b => a.1 < b.1) :
    (entries.foldl (fun t e => t.set e.1 e.2) t).entries = t.entries ++ entries := by
  induction entries generalizing t with
  | nil => simp
  | cons e entries ih =>
    have hlast : (t.set e.1 e.2).entries = t.entries ++ [e] := by
      refine updateEntries_of_lt _ ?_
      intro e' he'
      exact (List.pairwise_append.1 h).2.2 e' he' e (by simp)
    rw [List.foldl_cons, ih, hlast, List.append_assoc, List.singleton_append]
    rwa [hlast, List.append_assoc, List.singleton_append]

/-- A tally is put together again from its entries. -/
theorem ofEntries_entries (t : Tally) : ofEntries t.entries = t := by
  refine Tally.ext ?_
  have h := entries_foldl_set t.entries empty t.ordered
  exact h

theorem ofJson?_toJson {t : Tally} (h : ∀ e ∈ t.entries, e.2 < 2 ^ 64) :
    Tally.ofJson? t.toJson = some t := by
  have hentry : ∀ e ∈ t.entries,
      (((Json.nat e.2).asNat? Report.longLimit).map fun n => (e.1, n)) = some e := by
    intro e he
    rw [Json.asNat?_nat Report.longLimit (h e he), Option.map_some]
  rw [toJson, ofJson?, Json.mapM_map_eq_some (f := id) hentry, List.map_id, Option.map_some,
    ofEntries_entries]

end Tally

/-! ## Records -/

theorem Location.ofJson?_toJson {l : Location} (h : l.Fits) :
    Location.ofJson? l.toJson = some l := by
  have hrecord : l.toJson.record? ["file", "line", "column", "start_byte", "end_byte"] =
      some [some (.string l.file.text), some (.nat l.line), some (.nat l.column),
        some (.nat l.startByte), some (.nat l.endByte)] := Json.record?_object rfl (by decide)
  have hline := Json.asNat?_nat Report.wordLimit h.line
  have hcolumn := Json.asNat?_nat Report.wordLimit h.column
  have hstart := Json.asNat?_nat Report.longLimit h.startByte
  have hend := Json.asNat?_nat Report.longLimit h.endByte
  simp [ofJson?, hrecord, Json.required, Json.optional, Json.asText?, hline, hcolumn, hstart, hend]

theorem Diagnostic.ofJson?_toJson {d : Diagnostic} (h : d.Fits) :
    Diagnostic.ofJson? d.toJson = some d := by
  have hrecord : d.toJson.record? ["id", "rule_id", "remediation_cost_days", "severity", "category",
      "title", "message", "location", "display_name"] =
      some [some (.string d.id), some (.string d.ruleId), some (.nat d.days),
        some (.string d.severity.name), some (.string d.category), some (.string d.title),
        some (.string d.message), some d.location.toJson, some (.string d.displayName)] :=
    Json.record?_object rfl (by decide)
  have hdays := Json.asNat?_nat Report.wordLimit h.days
  have hlocation := Location.ofJson?_toJson h.location
  simp [ofJson?, hrecord, Json.required, Json.optional, Json.asText?, Json.asSeverity?, hdays,
    hlocation]

theorem Summary.ofJson?_toJson {s : Summary} (h : s.Fits) : Summary.ofJson? s.toJson = some s := by
  have hrecord : s.toJson.record? ["total", "total_days", "by_rule", "files_with_debt"] =
      some [some (.nat s.total), some (.nat s.totalDays), some s.byRule.toJson,
        some (.nat s.filesWithDebt)] := Json.record?_object rfl (by decide)
  have htotal := Json.asNat?_nat Report.longLimit h.total
  have hdays := Json.asNat?_nat Report.longLimit h.totalDays
  have hrule := Tally.ofJson?_toJson h.byRule
  have hfiles := Json.asNat?_nat Report.longLimit h.filesWithDebt
  simp [ofJson?, hrecord, Json.required, htotal, hdays, hrule, hfiles]

theorem FileError.ofJson?_toJson (e : FileError) : FileError.ofJson? e.toJson = some e := by
  have hrecord : e.toJson.record? ["file", "message"] =
      some [some (.string e.file.text), some (.string e.message)] :=
    Json.record?_object rfl (by decide)
  simp [ofJson?, hrecord, Json.required, Json.asText?]

theorem Report.ofJson?_toJson {r : Report} (h : r.Fits) : Report.ofJson? r.toJson = some r := by
  have hrecord : r.toJson.record? ["diagnostics", "summary", "files_analyzed",
      "annotations_matched", "errors", "duration_ms"] =
      some [some (.array (r.diagnostics.map Diagnostic.toJson)), some r.summary.toJson,
        some (.nat r.filesAnalyzed), some (.nat r.annotationsMatched),
        some (.array (r.errors.map FileError.toJson)), some (.nat r.durationMs)] :=
    Json.record?_object rfl (by decide)
  have hdiagnostics := Json.asList?_map fun d hd => Diagnostic.ofJson?_toJson (h.diagnostics d hd)
  have hsummary := Summary.ofJson?_toJson h.summary
  have hfiles := Json.asNat?_nat longLimit h.filesAnalyzed
  have hmatched := Json.asNat?_nat longLimit h.annotationsMatched
  have herrors := Json.asList?_map fun e (_ : e ∈ r.errors) => FileError.ofJson?_toJson e
  have htime := Json.asNat?_nat longLimit h.durationMs
  simp [ofJson?, hrecord, Json.required, Json.optional, hdiagnostics, hsummary, hfiles, hmatched,
    herrors, htime]

/-! ## The text of a report -/

theorem Tally.plain_toJson (t : Tally) : t.toJson.Plain := by
  rw [toJson, Json.Plain, Json.plainMembers_iff]
  intro m hm
  obtain ⟨e, -, rfl⟩ := List.mem_map.1 hm
  trivial

/-- Nothing in a report is written in a way that cannot be read. -/
theorem Report.plain_toJson (r : Report) : r.toJson.Plain := by
  simp [toJson, Diagnostic.toJson, Location.toJson, Summary.toJson, Tally.plain_toJson,
    FileError.toJson, Json.Plain]

/-- **A report is read back from its text**, whatever its texts are, as long as its numbers are in
their ranges. -/
theorem Report.renderJson_reads_back (r : Report) (h : r.Fits) :
    ∃ v, Json.read? r.renderJson = some v ∧ Report.ofJson? v = some r := by
  refine ⟨r.toJson, ?_, ?_⟩
  · exact Json.read?_pretty r.plain_toJson
  · exact Report.ofJson?_toJson h

/-- A report with quotes, backslashes, control characters and characters of several bytes in its
texts, with numbers at the ends of their ranges, and with a count for the empty name. -/
def awkwardReport : Report where
  diagnostics := [{
    id := "\"\\\"", ruleId := "\t\x00\x1f\x7f", days := 4294967295, severity := .warning,
    message := "é😀\r\n\\u0041", displayName := "/* \x7bdays\x7d */",
    location := ⟨⟨"a\\b/\"c\".cs"⟩, 4294967295, 0, 0, 18446744073709551615⟩ }]
  summary := ⟨1, 18446744073709551615, ⟨[("", 0), ("\"", 7)], by decide⟩, 3⟩
  filesAnalyzed := 2
  annotationsMatched := 0
  errors := [⟨⟨""⟩, "\x0c\x08"⟩, ⟨⟨"z"⟩, ""⟩]

theorem awkwardReport_reads_back :
    awkwardReport.Fits ∧
    ∃ v, Json.read? awkwardReport.renderJson = some v ∧
      Report.ofJson? v = some awkwardReport := by
  have hfits : awkwardReport.Fits := by
    refine ⟨?_, ⟨by decide, by decide, by decide, by decide⟩, by decide, by decide, by decide⟩
    intro d hd
    obtain rfl := List.mem_singleton.1 hd
    exact ⟨by decide, by decide, by decide, by decide, by decide⟩
  exact ⟨hfits, Report.renderJson_reads_back awkwardReport hfits⟩

end DeclaredDebt
