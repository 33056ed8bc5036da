import DeclaredDebt.Proofs.Accounting
import DeclaredDebt.Proofs.AttributePlaces
import DeclaredDebt.Proofs.Collection

/-!
# Merging the outcomes of files

The files of a run are analysed one by one, by any number of workers, and their outcomes are merged
into one report by sorting. Everything in an outcome belongs to its own file, and different files
have different keys, so the sorts only ever decide between files: the report does not depend on the
order in which the outcomes came, and it is the concatenation of the reports on the single files in
the order of their paths.

## Main definitions

* `Outcome.Concerns`: everything in an outcome belongs to one file.
* `Report.untimed`: a report without the time it took.
* `Analysis.share`: what a file has in a report, by the report on its text alone.
-/

namespace DeclaredDebt

/-- Everything in an outcome belongs to one file. -/
structure Outcome.Concerns (o : Outcome) (file : Path) : Prop where
  diagnostics : ∀ d ∈ o.diagnostics, d.location.file.key = file.key
  errors : ∀ e ∈ o.errors, e.file.key = file.key

/-- A report without the time it took. -/
def Report.untimed (r : Report) : Report := { r with durationMs := 0 }

/-! ## Outcomes belong to their files -/

/-- A diagnostic stands where its debt was declared. -/
theorem Debt.location_of_mem_diagnostics {severity? : Option Severity} {d : Debt}
    {diagnostic : Diagnostic} (h : diagnostic ∈ d.diagnostics severity?) :
    diagnostic.location = d.location := by
  obtain ⟨cost, -, rfl⟩ := List.mem_map.1 h
  rfl

theorem mem_of_mem_repeated {α : Type} {n : ℕ} {x : α} {l : List α} (h : x ∈ repeated n l) :
    x ∈ l := by
  obtain ⟨y, hy, hx⟩ := List.mem_flatMap.1 h
  exact List.eq_of_mem_replicate hx ▸ hy

namespace Analysis

theorem concerns_outcome (a : Analysis) {file : Path} {usages : List Usage}
    (h : ∀ u ∈ usages, u.location.file = file) : (a.outcome file usages).Concerns file where
  diagnostics := by
    intro diagnostic hmem
    rw [diagnostics_outcome, List.mem_flatMap] at hmem
    obtain ⟨debt, hdebt, hdiagnostic⟩ := hmem
    obtain ⟨u, hu, hfound⟩ := List.mem_filterMap.1 (mem_of_mem_repeated hdebt)
    rw [Debt.location_of_mem_diagnostics hdiagnostic, Usage.location_of_found? hfound, h u hu]
  errors := by
    intro e hmem
    rw [errors_outcome] at hmem
    obtain ⟨fault, -, rfl⟩ := List.mem_map.1 hmem
    rfl

end Analysis

/-- A source is read as text and parsed. -/
theorem FileTree.parseFile_of_isSupported {t : FileTree} {file : Path} {recovery : Recovery}
    (h : file.isSupported = true) :
    t.parseFile file recovery =
      (t.readText file).map fun source => CSharp.parseSource file source recovery := by
  have hextension : file.extension? = some "cs".toList := by
    unfold Path.isSupported at h
    split at h
    · next extension hsome =>
      have hcs : ("cs".toList == extension) = true := by simpa [supportedExtensions] using h
      rw [hsome, beq_iff_eq.1 hcs]
    · cases h
  simp [parseFile, hextension]

namespace Analysis

theorem concerns_outcomeOfFile (a : Analysis) (t : FileTree) {file : Path}
    (h : file.isSupported = true) : (a.outcomeOfFile t file).Concerns file := by
  unfold outcomeOfFile
  rw [FileTree.parseFile_of_isSupported h]
  cases t.readText file with
  | ok source => exact a.concerns_outcome fun u hu => CSharp.file_of_mem_usages hu
  | error fault => exact ⟨by simp [Except.map, Outcome.unreadable],
      by simp [Except.map, Outcome.unreadable]⟩

end Analysis

/-! ## The order of outcomes -/

namespace Report

/-- **A report does not depend on the order of the outcomes** of different files. -/
theorem ofOutcomes_perm {shares shares' : List (Path × Outcome)} (hperm : shares.Perm shares')
    (hfiles : shares.Pairwise fun x y => x.1.key ≠ y.1.key)
    (hown : ∀ x ∈ shares, x.2.Concerns x.1) (filesAnalyzed durationMs durationMs' : ℕ) :
    (ofOutcomes filesAnalyzed durationMs (shares.map (·.2))).untimed =
      (ofOutcomes filesAnalyzed durationMs' (shares'.map (·.2))).untimed := by
  have hdiagnostics : (shares.flatMap (·.2.diagnostics)).mergeSort Diagnostic.notAfter =
      (shares'.flatMap (·.2.diagnostics)).mergeSort Diagnostic.notAfter :=
    Diagnostic.sortOrder_notAfter.mergeSort_flatMap_perm_of_key Diagnostic.key_le_of_notAfter hperm
      (fun x hx => (hown x hx).diagnostics) hfiles
  have herrors : (shares.flatMap (·.2.errors)).mergeSort (fun a b => a.file.le b.file) =
      (shares'.flatMap (·.2.errors)).mergeSort fun a b => a.file.le b.file :=
    FileError.sortOrder_file.mergeSort_flatMap_perm_of_key
      (fun a b => (Path.le_iff a.file b.file).1) hperm (fun x hx => (hown x hx).errors) hfiles
  have hmatched : (shares.map (·.2.matched)).sum = (shares'.map (·.2.matched)).sum :=
    (hperm.map _).sum_eq
  simp only [untimed, ofOutcomes, List.flatMap_map, List.map_map, Function.comp_def,
    ← List.sum_eq_foldr, hdiagnostics, herrors, hmatched]

end Report

/-! ## The report on a path -/

namespace Analysis

/-- What a file has in a report, by the report on its text alone. A file that cannot be read as text
has one error, which names it. -/
def share (a : Analysis) (t : FileTree) (file : Path) : Outcome :=
  match t.readText file with
  | .ok source =>
    let r := a.ofSource 0 file source
    { diagnostics := r.diagnostics, matched := r.annotationsMatched, errors := r.errors }
  | .error fault => { errors := [⟨file, FileTree.unreadableMessage file fault⟩] }

/-- The share of a source is its outcome, sorted. -/
theorem share_eq (a : Analysis) (t : FileTree) {file : Path} (h : file.isSupported = true) :
    a.share t file =
      { diagnostics := (a.outcomeOfFile t file).diagnostics.mergeSort Diagnostic.notAfter
        matched := (a.outcomeOfFile t file).matched
        errors := (a.outcomeOfFile t file).errors.mergeSort fun x y => x.file.le y.file } := by
  unfold share outcomeOfFile
  rw [FileTree.parseFile_of_isSupported h]
  cases t.readText file with
  | ok source => simp [Except.map, ofSource, ofUsages, Report.ofOutcomes]
  | error fault => simp [Except.map, Outcome.unreadable]

/-- The entries of increasing files, merged by sorting, are those of the files one after the
other. -/
theorem mergeSort_flatMap_outcomeOfFile (a : Analysis) (t : FileTree) {files : List Path}
    (hincreasing : Path.Increasing files) (hsources : ∀ file ∈ files, file.isSupported = true) :
    (files.flatMap fun file => (a.outcomeOfFile t file).diagnostics).mergeSort
        Diagnostic.notAfter = files.flatMap (fun file => (a.share t file).diagnostics) ∧
      (files.flatMap fun file => (a.outcomeOfFile t file).errors).mergeSort
        (fun x y => x.file.le y.file) = files.flatMap fun file => (a.share t file).errors := by
  have hown : ∀ file ∈ files, (a.outcomeOfFile t file).Concerns file :=
    fun file hfile => a.concerns_outcomeOfFile t (hsources file hfile)
  constructor
  · rw [Diagnostic.sortOrder_notAfter.mergeSort_flatMap_of_key Diagnostic.key_le_of_notAfter
      (fun file hfile => (hown file hfile).diagnostics) hincreasing]
    refine List.flatMap_congr ?_
    intro file hfile
    rw [a.share_eq t (hsources file hfile)]
  · rw [FileError.sortOrder_file.mergeSort_flatMap_of_key
      (fun x y => (Path.le_iff x.file y.file).1) (fun file hfile => (hown file hfile).errors)
      hincreasing]
    refine List.flatMap_congr ?_
    intro file hfile
    rw [a.share_eq t (hsources file hfile)]

/-- The order in which the files of a run are finished does not show in its report. -/
theorem ofOutcomes_of_perm (a : Analysis) (t : FileTree) {files finished : List Path}
    (hincreasing : Path.Increasing files) (hsources : ∀ file ∈ files, file.isSupported = true)
    (hperm : finished.Perm files) (durationMs durationMs' : ℕ) :
    (Report.ofOutcomes files.length durationMs (finished.map (a.outcomeOfFile t))).untimed =
      (Report.ofOutcomes files.length durationMs' (files.map (a.outcomeOfFile t))).untimed := by
  have hshares : (finished.map fun file => (file, a.outcomeOfFile t file)).Perm
      (files.map fun file => (file, a.outcomeOfFile t file)) := hperm.map _
  have hfiles : (files.map fun file => (file, a.outcomeOfFile t file)).Pairwise
      fun x y => x.1.key ≠ y.1.key :=
    List.pairwise_map.2 (hincreasing.imp fun hlt => ne_of_lt hlt)
  have hown : ∀ x ∈ files.map fun file => (file, a.outcomeOfFile t file), x.2.Concerns x.1 := by
    intro x hx
    obtain ⟨file, hfile, rfl⟩ := List.mem_map.1 hx
    exact a.concerns_outcomeOfFile t (hsources file hfile)
  have h := Report.ofOutcomes_perm hshares.symm hfiles hown files.length durationMs' durationMs
  simpa [Function.comp_def] using h.symm

/-- **The report on a path is the concatenation of the reports on its files.** Where files are
collected, the analysis succeeds with any number of workers, and its diagnostics, errors and matches
are those of the single files in the order of their paths; a file that cannot be read has one error
and changes nothing else. The report is the same in whatever order the workers finish the files. -/
theorem ofPath_concatenates_files (a : Analysis) (t : FileTree) (globs : List (List Glob.Piece))
    (root : Path) (files : List Path) (durationMs : ℕ) (h : t.collect globs root = .ok files) :
    ∃ r, (∀ workers, Analysis.ofPath { a with workers } durationMs t globs root = .ok r) ∧
      r.diagnostics = files.flatMap (fun file => (a.share t file).diagnostics) ∧
      r.errors = files.flatMap (fun file => (a.share t file).errors) ∧
      r.annotationsMatched = (files.map fun file => (a.share t file).matched).sum ∧
      r.filesAnalyzed = files.length ∧
      r.summary = Summary.ofDiagnostics r.diagnostics ∧
      ∀ (finished : List Path) (durationMs' : ℕ), finished.Perm files →
        (Report.ofOutcomes files.length durationMs' (finished.map (a.outcomeOfFile t))).untimed =
          r.untimed := by
  have hincreasing := FileTree.increasing_collect h
  have hsources : ∀ file ∈ files, file.isSupported = true :=
    fun file hfile => FileTree.isSupported_of_mem_collect h hfile
  refine ⟨Report.ofOutcomes files.length durationMs (files.map (a.outcomeOfFile t)),
    ?_, ?_, ?_, ?_, rfl, rfl, ?_⟩
  · intro workers
    simp only [ofPath, h, Except.map]
    rfl
  · simp only [Report.ofOutcomes, List.flatMap_map]
    exact (a.mergeSort_flatMap_outcomeOfFile t hincreasing hsources).1
  · simp only [Report.ofOutcomes, List.flatMap_map]
    exact (a.mergeSort_flatMap_outcomeOfFile t hincreasing hsources).2
  · simp only [Report.ofOutcomes, List.map_map, ← List.sum_eq_foldr]
    refine congrArg List.sum (List.map_congr_left ?_)
    intro file hfile
    rw [a.share_eq t (hsources file hfile)]
    rfl
  · intro finished durationMs' hperm
    exact a.ofOutcomes_of_perm t hincreasing hsources hperm durationMs' durationMs

end Analysis

/-- A source that declares some days. -/
def declaringSource (days : String) : String :=
  "[ManualTechnicalDebt(SqaleRemediationDaysEffort=" ++ days ++ ")]class A;"

/-- A tree with a source that declares debt, another file, a source that is not text, and a source
with a cost that is too large. -/
def mixedTree : FileTree where
  entries :=
    [(["a.cs"], .file (declaringSource "12").toUTF8.toList), (["n.txt"], .file []),
      (["src", "b.cs"], .file [255]),
      (["src", "c.cs"], .file (declaringSource "70000").toUTF8.toList)]

/-- The sources of the tree. -/
def mixedFiles : List Path := [⟨"./a.cs"⟩, ⟨"./src/b.cs"⟩, ⟨"./src/c.cs"⟩]

theorem collect_mixedTree : mixedTree.collect [] ⟨"."⟩ = .ok mixedFiles := by
  have hplace : mixedTree.locate ⟨"."⟩ = .ok [] := by decide
  have hentry : mixedTree.entry? [] = some .directory := by decide
  have hfound : ((mixedTree.walk []).filter (mixedTree.isSource [] ⟨"."⟩)).map
      (FileTree.pathBelow ⟨"."⟩) = mixedFiles := by decide
  simp only [FileTree.collect, hplace, hentry, FileTree.collectBelow, FileTree.sourcesAmong, hfound]
  rw [List.mergeSort_of_pairwise (by decide)]

/-- The debt that is declared in the tree. -/
def mixedDebt : Debt where
  name := "ManualTechnicalDebt"
  displayName := "ManualTechnicalDebt"
  location := { file := ⟨"./a.cs"⟩, line := 1, column := 2, startByte := 1, endByte := 51 }
  days := 12

/-- What the sources of the tree contribute. -/
def mixedOutcomes : List Outcome :=
  [{ diagnostics := mixedDebt.diagnostics none, matched := 1 },
    { errors := [⟨⟨"./src/b.cs"⟩,
        "Failed to read file: ./src/b.cs: stream did not contain valid UTF-8"⟩] },
    { errors := [⟨⟨"./src/c.cs"⟩,
        "remediation cost '70000' at ./src/c.cs:1:2 exceeds 65535 days"⟩] }]

set_option maxRecDepth 100000 in
theorem map_outcomeOfFile_mixedTree :
    mixedFiles.map (({} : Analysis).outcomeOfFile mixedTree) = mixedOutcomes := by
  simp only [mixedFiles, List.map_cons, List.map_nil, Analysis.outcomeOfFile, FileTree.parseFile,
    CSharp.parseSource_eq]
  decide +kernel

/-- The shares of the sources are their outcomes, which are in order. -/
theorem map_share_mixedTree :
    mixedFiles.map (({} : Analysis).share mixedTree) = mixedOutcomes := by
  have hsorted : ∀ o ∈ mixedOutcomes,
      o.diagnostics.Pairwise (fun d e => d.notAfter e = true) ∧
        o.errors.Pairwise fun x y => x.file.le y.file = true := by decide
  rw [← map_outcomeOfFile_mixedTree] at hsorted ⊢
  refine List.map_congr_left ?_
  intro file hfile
  obtain ⟨hdiagnostics, herrors⟩ := hsorted _ (List.mem_map_of_mem hfile)
  have hsupported : ∀ file ∈ mixedFiles, file.isSupported = true := by decide
  rw [Analysis.share_eq _ _ (hsupported file hfile), List.mergeSort_of_pairwise hdiagnostics,
    List.mergeSort_of_pairwise herrors]

/-- The debt has both of its diagnostics in the report, beside the errors of the other two
sources. -/
theorem ofPath_mixedTree :
    mixedTree.collect [] ⟨"."⟩ = .ok mixedFiles ∧
    ∃ r, Analysis.ofPath {} 0 mixedTree [] ⟨"."⟩ = .ok r ∧
      r.diagnostics = mixedDebt.diagnostics none ∧ r.diagnostics.length = 2 ∧
      r.summary.totalDays = 12 ∧ r.errors = mixedOutcomes.flatMap (·.errors) ∧
      r.errors.length = 2 ∧ r.annotationsMatched = 1 ∧ r.filesAnalyzed = 3 := by
  obtain ⟨r, hr, hdiagnostics, herrors, hmatched, hfiles, hsummary, -⟩ :=
    Analysis.ofPath_concatenates_files {} mixedTree [] ⟨"."⟩ _ 0 collect_mixedTree
  have hshares := map_share_mixedTree
  rw [← List.flatMap_map, hshares] at hdiagnostics herrors
  rw [← Function.comp_def, ← List.map_map, hshares] at hmatched
  have hsum : r.diagnostics = mixedDebt.diagnostics none := hdiagnostics
  refine ⟨collect_mixedTree, r, hr 0, hsum, ?_, ?_, herrors, ?_, hmatched, hfiles⟩
  · rw [hsum]
    decide
  · rw [hsummary, hsum]
    decide
  · rw [herrors]
    decide

/-! ## Scheduling and walk order -/

/-- **Neither the order of outcomes nor the order of a walk shows in a result.** Outcomes of
different files, each of which holds only what belongs to its file, give the same report in every
order. Finds of a walk that have different keys give the same strictly increasing files in every
order, and what a walk of a tree yields are such finds. -/
theorem run_independent_of_order :
    (∀ (shares shares' : List (Path × Outcome)) (filesAnalyzed durationMs durationMs' : ℕ),
      shares.Perm shares' → (shares.Pairwise fun x y => x.1.key ≠ y.1.key) →
      (∀ x ∈ shares, x.2.Concerns x.1) →
      (Report.ofOutcomes filesAnalyzed durationMs (shares.map (·.2))).untimed =
        (Report.ofOutcomes filesAnalyzed durationMs' (shares'.map (·.2))).untimed) ∧
    (∀ (t : FileTree) (globs : List (List Glob.Piece)) (root : Path)
      (found found' : List (List String)),
      found.Perm found' → (found.map fun below => (FileTree.pathBelow root below).key).Nodup →
      t.sourcesAmong globs root found = t.sourcesAmong globs root found' ∧
        Path.Increasing (t.sourcesAmong globs root found)) ∧
    ∀ (t : FileTree) (globs : List (List Glob.Piece)) (root : Path) (place : List String)
      (found : List (List String)),
      t.locate root = .ok place → t.entry? place = some .directory →
      found.Perm (t.walk place) →
      (found.map fun below => (FileTree.pathBelow root below).key).Nodup ∧
        t.collect globs root = .ok (t.sourcesAmong globs root found) := by
  refine ⟨?_, ?_, ?_⟩
  · intro shares shares' filesAnalyzed durationMs durationMs' hperm hfiles hown
    exact Report.ofOutcomes_perm hperm hfiles hown filesAnalyzed durationMs durationMs'
  · intro t globs root found found' hperm honce
    exact ⟨t.sourcesAmong_perm globs root honce hperm,
      t.increasing_sourcesAmong globs root honce⟩
  · intro t globs root place found hplace hentry hperm
    have honce := t.nodup_key_walk (FileTree.text_ne_of_locate hplace) place
    refine ⟨(hperm.map _).nodup_iff.2 honce, ?_⟩
    rw [t.sourcesAmong_perm globs root ((hperm.map _).nodup_iff.2 honce) hperm]
    simp only [FileTree.collect, hplace, hentry, FileTree.collectBelow]

/-- Two outcomes, one of them with two errors at one file, and the finds of a walk, each the other
way round. -/
theorem mixedTree_independent_of_order :
    (Report.ofOutcomes 2 0 [{ errors := [⟨⟨"b"⟩, "y"⟩, ⟨⟨"b"⟩, "x"⟩] },
        { errors := [⟨⟨"a"⟩, "z"⟩] }]).untimed =
      (Report.ofOutcomes 2 5 [{ errors := [⟨⟨"a"⟩, "z"⟩] },
        { errors := [⟨⟨"b"⟩, "y"⟩, ⟨⟨"b"⟩, "x"⟩] }]).untimed ∧
    mixedTree.walk [] ≠ (mixedTree.walk []).reverse ∧
    mixedTree.collect [] ⟨"."⟩ =
      .ok (mixedTree.sourcesAmong [] ⟨"."⟩ (mixedTree.walk []).reverse) := by
  obtain ⟨houtcomes, -, hwalk⟩ := run_independent_of_order
  refine ⟨?_, by decide, ?_⟩
  · refine houtcomes [(⟨"b"⟩, { errors := [⟨⟨"b"⟩, "y"⟩, ⟨⟨"b"⟩, "x"⟩] }),
      (⟨"a"⟩, { errors := [⟨⟨"a"⟩, "z"⟩] })] [(⟨"a"⟩, { errors := [⟨⟨"a"⟩, "z"⟩] }),
      (⟨"b"⟩, { errors := [⟨⟨"b"⟩, "y"⟩, ⟨⟨"b"⟩, "x"⟩] })] 2 0 5 (List.Perm.swap _ _ _)
      (by decide) ?_
    intro x hx
    simp only [List.mem_cons, List.not_mem_nil, or_false] at hx
    obtain rfl | rfl := hx
    · exact ⟨by simp, by simp⟩
    · exact ⟨by simp, by simp⟩
  · exact (hwalk mixedTree [] ⟨"."⟩ [] _ (by decide) (by decide) (List.reverse_perm _)).2

end DeclaredDebt
