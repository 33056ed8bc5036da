import DeclaredDebt.Proofs.AttributePlaces
import DeclaredDebt.Proofs.Provenance

/-!
# The order of diagnostics

A report is sorted by file, line and column only, but with the check registered once its diagnostics
are ordered further: what stands at one place are the tiers of one usage, which come with decreasing
costs, and sorting keeps them as they come. Hence no two diagnostics of a report are computed from
the same rule at the same place.

## Main definitions

* `Diagnostic.rank`: file, line, column and cost, larger costs first.
* `Diagnostic.StrictlyOrdered`: diagnostics of increasing rank, each with a key of its own.
-/

namespace DeclaredDebt

namespace Diagnostic

/-- What diagnostics are ordered by: file, then line, then column, then cost, of which the larger
comes first. -/
def rank (d : Diagnostic) : List (List ℕ) ×ₗ ℕ ×ₗ ℕ ×ₗ ℕᵒᵈ :=
  toLex (d.location.file.key,
    toLex (d.location.line, toLex (d.location.column, OrderDual.toDual d.days)))

/-- Diagnostics of increasing rank. An identifier is computed from a rule, a file, a line and a
column, and no two of the diagnostics agree in all of these, however their files are written. -/
structure StrictlyOrdered (diagnostics : List Diagnostic) : Prop where
  increasing : diagnostics.Pairwise fun d e => d.rank < e.rank
  id_eq : ∀ d ∈ diagnostics,
    d.id = idFor d.ruleId d.location.file.text d.location.line d.location.column
  distinct : (diagnostics.map fun d =>
    (d.ruleId, d.location.file.key, d.location.line, d.location.column)).Nodup

/-- A place comes before another, or it is the same with a larger cost. -/
theorem rank_lt_iff (d e : Diagnostic) :
    d.rank < e.rank ↔ d.place < e.place ∨ d.place = e.place ∧ e.days < d.days := by
  simp only [rank, place, Prod.Lex.toLex_lt_toLex, OrderDual.toDual_lt_toDual, toLex_inj,
    Prod.mk.injEq]
  tauto

theorem place_ofBucket (severity? : Option Severity) (location : Location) (displayName : String)
    (b : Bucket) : (ofBucket severity? location displayName b).place =
      toLex (location.file.key, toLex (location.line, location.column)) := rfl

theorem notAfter_of_rank_lt {d e : Diagnostic} (h : d.rank < e.rank) : d.notAfter e = true := by
  rw [notAfter_iff]
  rcases (rank_lt_iff d e).1 h with hlt | ⟨heq, -⟩
  · exact hlt.le
  · exact heq.le

/-- What is ordered already stays as it is when it is sorted. -/
theorem mergeSort_eq_self {diagnostics : List Diagnostic}
    (h : diagnostics.Pairwise fun d e => d.rank < e.rank) :
    diagnostics.mergeSort notAfter = diagnostics :=
  List.mergeSort_of_pairwise (h.imp notAfter_of_rank_lt)

end Diagnostic

/-! ## The diagnostics of a source -/

/-- The tiers of a day count come with decreasing costs. -/
theorem pairwise_costTiers (days : ℕ) : (costTiers days).Pairwise fun c c' => c' < c := by
  unfold costTiers clampThreshold
  split
  · simp
  · rw [List.pairwise_filter]
    simp only [List.pairwise_cons, List.mem_singleton, forall_eq, decide_eq_true_eq]
    refine ⟨?_, by simp⟩
    intro htens hones
    omega

namespace Debt

theorem increasing_diagnostics (severity? : Option Severity) (d : Debt) :
    (d.diagnostics severity?).Pairwise fun e e' => e.rank < e'.rank := by
  refine List.pairwise_map.2 ((pairwise_costTiers d.days).imp ?_)
  intro c c' hlt
  rw [Diagnostic.rank_lt_iff]
  right
  refine ⟨?_, hlt⟩
  rw [Diagnostic.place_ofBucket, Diagnostic.place_ofBucket]

end Debt

namespace Analysis

/-- Usages of one file that come with increasing places have diagnostics of increasing rank. -/
theorem increasing_outcome {a : Analysis} (ha : a.registrations = 1) {file : Path}
    {usages : List Usage} (hfile : ∀ u ∈ usages, u.location.file = file)
    (hplaces : usages.Pairwise fun u v => u.location.IsBefore v.location) :
    (a.outcome file usages).diagnostics.Pairwise fun d e => d.rank < e.rank := by
  rw [diagnostics_outcome, ha, repeated_one]
  refine List.pairwise_flatMap.2 ⟨fun debt _ => debt.increasing_diagnostics a.severity?, ?_⟩
  refine List.pairwise_filterMap.2 (hplaces.imp_of_mem ?_)
  intro u v hu hv hlt debt hdebt debt' hdebt' d hd e he
  refine (Diagnostic.rank_lt_iff d e).2 (.inl ?_)
  rw [Diagnostic.place, Diagnostic.place, Debt.location_of_mem_diagnostics hd,
    Debt.location_of_mem_diagnostics he, Usage.location_of_found? hdebt,
    Usage.location_of_found? hdebt', hfile u hu, hfile v hv, Prod.Lex.toLex_lt_toLex]
  exact .inr ⟨rfl, (CSharp.isBefore_iff _ _).1 hlt⟩

/-- The usages of a source are such, also if it has syntax errors. -/
theorem increasing_outcome_parseSource {a : Analysis} (ha : a.registrations = 1) (file : Path)
    (source : List Char) (recovery : Recovery) :
    (a.outcome file (CSharp.parseSource file source recovery).usages).diagnostics.Pairwise
      fun d e => d.rank < e.rank :=
  increasing_outcome ha (fun _ hu => CSharp.file_of_mem_usages hu)
    (CSharp.pairwise_isBefore_usages file source recovery)

theorem increasing_outcomeOfFile {a : Analysis} (ha : a.registrations = 1) (t : FileTree)
    {file : Path} (h : file.isSupported = true) :
    (a.outcomeOfFile t file).diagnostics.Pairwise fun d e => d.rank < e.rank := by
  unfold outcomeOfFile
  rw [FileTree.parseFile_of_isSupported h]
  cases t.readText file with
  | ok source => exact increasing_outcome_parseSource ha file source a.recovery
  | error fault => exact .nil

/-- Files come with increasing keys, and so do the diagnostics in them. -/
theorem increasing_flatMap_outcomeOfFile {a : Analysis} (ha : a.registrations = 1) (t : FileTree)
    {files : List Path} (hincreasing : Path.Increasing files)
    (hsources : ∀ file ∈ files, file.isSupported = true) :
    (files.flatMap fun file => (a.outcomeOfFile t file).diagnostics).Pairwise
      fun d e => d.rank < e.rank := by
  refine List.pairwise_flatMap.2 ⟨?_, hincreasing.imp_of_mem ?_⟩
  · intro file hfile
    exact increasing_outcomeOfFile ha t (hsources file hfile)
  · intro file file' hfile hfile' hlt d hd e he
    refine (Diagnostic.rank_lt_iff d e).2 (.inl ?_)
    rw [Diagnostic.place, Diagnostic.place, Prod.Lex.toLex_lt_toLex]
    left
    rw [(a.concerns_outcomeOfFile t (hsources file hfile)).diagnostics d hd,
      (a.concerns_outcomeOfFile t (hsources file' hfile')).diagnostics e he]
    exact hlt

end Analysis

/-! ## The diagnostics of a report -/

theorem Diagnostic.OfRegistry.ruleId_eq {d : Diagnostic} (h : d.OfRegistry) :
    d.ruleId = Bucket.identifierFor d.days := by
  obtain ⟨b, -, severity?, location, displayName, rfl⟩ := h
  rfl

theorem Diagnostic.OfRegistry.id_eq {d : Diagnostic} (h : d.OfRegistry) :
    d.id = idFor d.ruleId d.location.file.text d.location.line d.location.column := by
  obtain ⟨b, -, severity?, location, displayName, rfl⟩ := h
  rfl

namespace Report

theorem increasing_ofOutcomes {filesAnalyzed durationMs : ℕ} {outcomes : List Outcome}
    (h : (outcomes.flatMap (·.diagnostics)).Pairwise fun d e => d.rank < e.rank) :
    (ofOutcomes filesAnalyzed durationMs outcomes).diagnostics.Pairwise
      fun d e => d.rank < e.rank := by
  simpa only [ofOutcomes, Diagnostic.mergeSort_eq_self h] using h

/-- A rule determines its cost, so diagnostics of one rule at one place would have the same rank. -/
theorem Produced.strictlyOrdered {r : Report} (h : r.Produced)
    (hincreasing : r.diagnostics.Pairwise fun d e => d.rank < e.rank) :
    Diagnostic.StrictlyOrdered r.diagnostics where
  increasing := hincreasing
  id_eq := by
    intro d hd
    exact (h.ofRegistry d hd).id_eq
  distinct := by
    refine List.pairwise_map.2 (hincreasing.imp_of_mem ?_)
    intro d e hd he hlt heq
    simp only [Prod.mk.injEq] at heq
    obtain ⟨hrule, hfile, hline, hcolumn⟩ := heq
    rw [(h.ofRegistry d hd).ruleId_eq, (h.ofRegistry e he).ruleId_eq] at hrule
    have hdays : d.days = e.days := Bucket.identifierFor_injective hrule
    have hrank : d.rank = e.rank := by
      rw [Diagnostic.rank, Diagnostic.rank, hfile, hline, hcolumn, hdays]
    exact absurd hlt (hrank ▸ lt_irrefl _)

end Report

/-- **The diagnostics of a report are strictly ordered** by file, line, column and decreasing cost,
if the check is registered once: those of every source, and those of all sources below a path. No
two of them have the same rule, file, line and column, from which identifiers are computed. -/
theorem Analysis.diagnostics_strictlyOrdered (a : Analysis) (ha : a.registrations = 1)
    (durationMs : ℕ) :
    (∀ (file : Path) (source : List Char),
      Diagnostic.StrictlyOrdered (a.ofSource durationMs file source).diagnostics) ∧
    ∀ (t : FileTree) (globs : List (List Glob.Piece)) (root : Path) (r : Report),
      a.ofPath durationMs t globs root = .ok r → Diagnostic.StrictlyOrdered r.diagnostics := by
  refine ⟨?_, ?_⟩
  · intro file source
    apply (Report.Produced.source a durationMs file source).strictlyOrdered
    apply Report.increasing_ofOutcomes
    simpa using increasing_outcome_parseSource ha file source a.recovery
  · intro t globs root r hr
    apply (Report.Produced.path a durationMs t globs root hr).strictlyOrdered
    obtain ⟨files, hfiles, rfl⟩ := ofPath_eq_ok_iff.1 hr
    apply Report.increasing_ofOutcomes
    rw [List.flatMap_map]
    exact increasing_flatMap_outcomeOfFile ha t (FileTree.increasing_collect hfiles)
      fun file hfile => FileTree.isSupported_of_mem_collect hfiles hfile

/-- A tree with two sources, each with one debt that takes two buckets. -/
def twoTierTree : FileTree where
  entries := [(["a.cs"], .file (String.ofList twoTierSource).toUTF8.toList),
    (["b.cs"], .file (String.ofList twoTierSource).toUTF8.toList)]

theorem collect_twoTierTree :
    twoTierTree.collect [] ⟨"."⟩ = .ok [⟨"./a.cs"⟩, ⟨"./b.cs"⟩] := by
  have hplace : twoTierTree.locate ⟨"."⟩ = .ok [] := by decide +kernel
  have hentry : twoTierTree.entry? [] = some .directory := by decide +kernel
  have hfound : ((twoTierTree.walk []).filter (twoTierTree.isSource [] ⟨"."⟩)).map
      (FileTree.pathBelow ⟨"."⟩) = [⟨"./a.cs"⟩, ⟨"./b.cs"⟩] := by decide +kernel
  simp only [FileTree.collect, hplace, hentry, FileTree.collectBelow, FileTree.sourcesAmong, hfound]
  rw [List.mergeSort_of_pairwise (by decide)]

set_option maxRecDepth 100000 in
theorem length_outcomes_twoTierTree :
    (([⟨"./a.cs"⟩, ⟨"./b.cs"⟩] : List Path).flatMap fun file =>
      (({} : Analysis).outcomeOfFile twoTierTree file).diagnostics).length = 4 := by
  simp only [Analysis.outcomeOfFile, FileTree.parseFile, CSharp.parseSource_eq]
  decide +kernel

/-- The report on that tree has four diagnostics in their order. -/
theorem twoTierTree_strictlyOrdered :
    (∃ r, Analysis.ofPath {} 0 twoTierTree [] ⟨"."⟩ = .ok r ∧ r.diagnostics.length = 4 ∧
      Diagnostic.StrictlyOrdered r.diagnostics) ∧
    Diagnostic.StrictlyOrdered (Analysis.ofSource {} 0 ⟨"a.cs"⟩ twoTierSource).diagnostics := by
  obtain ⟨hsource, hpath⟩ := Analysis.diagnostics_strictlyOrdered {} rfl 0
  obtain ⟨r, hr⟩ : ∃ r, Analysis.ofPath {} 0 twoTierTree [] ⟨"."⟩ = .ok r :=
    ⟨_, Analysis.ofPath_eq_ok_iff.2 ⟨_, collect_twoTierTree, rfl⟩⟩
  refine ⟨⟨r, hr, ?_, hpath _ _ _ _ hr⟩, hsource _ _⟩
  obtain ⟨files, hfiles, rfl⟩ := Analysis.ofPath_eq_ok_iff.1 hr
  obtain rfl := Except.ok.inj (collect_twoTierTree.symm.trans hfiles)
  rw [Report.ofOutcomes, List.length_mergeSort, List.flatMap_map]
  exact length_outcomes_twoTierTree

end DeclaredDebt
