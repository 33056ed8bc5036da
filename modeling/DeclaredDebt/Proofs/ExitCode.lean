import DeclaredDebt.Program
import DeclaredDebt.Proofs.Merge

/-!
# What an exit code says

An analysis that writes its report ends with one of three exit codes. Which one depends only on the
collected files and on the limit of declared days: the code is 2 if something could not be analysed,
otherwise 1 if the declared days reach the limit, and otherwise 0. What the report shows, how it is
written and where it goes have no part in it, because the days are counted and the errors recorded
before any of that is decided.

## Main definitions

* `FileTree.Faulty`: a file that cannot be analysed completely.
* `FileTree.declaredDays`: the days that are declared in some files.
* `FileTree.Means`: what an exit code says about some files and a limit.
* `FileTree.Ready`: what an analysis needs in order to write its report.
* `Invocation.analysis?`: the analysis that a command line asks for.
-/

namespace DeclaredDebt

namespace FileTree

/-- The usages in a file of a tree; a file that cannot be read has none. -/
def usagesIn (t : FileTree) (recovery : Recovery) (file : Path) : List Usage :=
  match t.readText file with
  | .ok source => (CSharp.parseSource file source recovery).usages
  | .error _ => []

/-- A file that cannot be analysed completely: it cannot be read as text, or a usage in it declares
more days than a day count can hold. -/
def Faulty (t : FileTree) (recovery : Recovery) (file : Path) : Prop :=
  (∃ fault, t.readText file = .error fault) ∨
    ∃ u ∈ t.usagesIn recovery file, ∃ literal location,
      u.debt? = .error (.overflow literal location)

/-- The days that are declared in some files, each usage with what is reported of it. -/
def declaredDays (t : FileTree) (recovery : Recovery) (files : List Path) : ℕ :=
  ((files.flatMap fun file => (t.usagesIn recovery file).filterMap Usage.found?).map
    fun d => min d.days 99).sum

/-- What an exit code says about the analysed files and a limit of declared days. -/
structure Means (t : FileTree) (recovery : Recovery) (files : List Path) (limit? : Option ℕ)
    (exitCode : ℕ) : Prop where
  two_iff : exitCode = 2 ↔ ∃ file ∈ files, t.Faulty recovery file
  one_iff : exitCode = 1 ↔ (∀ file ∈ files, ¬ t.Faulty recovery file) ∧
    ∃ limit, limit? = some limit ∧ limit ≤ t.declaredDays recovery files
  zero_iff : exitCode = 0 ↔ (∀ file ∈ files, ¬ t.Faulty recovery file) ∧
    ∀ limit, limit? = some limit → t.declaredDays recovery files < limit

/-- Something is faulty, or else the limit is reached or not. -/
theorem faulty_or_limit_reached_or_not (t : FileTree) (recovery : Recovery) (files : List Path)
    (limit? : Option ℕ) :
    (∃ file ∈ files, t.Faulty recovery file) ∨
    ((∀ file ∈ files, ¬ t.Faulty recovery file) ∧
      ∃ limit, limit? = some limit ∧ limit ≤ t.declaredDays recovery files) ∨
    ((∀ file ∈ files, ¬ t.Faulty recovery file) ∧
      ∀ limit, limit? = some limit → t.declaredDays recovery files < limit) := by
  by_cases hfault : ∃ file ∈ files, t.Faulty recovery file
  · exact .inl hfault
  · have hsound : ∀ file ∈ files, ¬ t.Faulty recovery file := by
      intro file hfile hfaulty
      exact hfault ⟨file, hfile, hfaulty⟩
    by_cases hlimit : ∃ limit, limit? = some limit ∧ limit ≤ t.declaredDays recovery files
    · exact .inr (.inl ⟨hsound, hlimit⟩)
    · refine .inr (.inr ⟨hsound, ?_⟩)
      intro limit hsome
      exact lt_of_not_ge fun hle => hlimit ⟨limit, hsome, hle⟩

/-- The files and the limit leave only one exit code. -/
theorem Means.unique {t : FileTree} {recovery : Recovery} {files : List Path}
    {limit? : Option ℕ} {c d : ℕ}
    (hc : t.Means recovery files limit? c) (hd : t.Means recovery files limit? d) : c = d := by
  obtain hfault | hreached | hbelow := t.faulty_or_limit_reached_or_not recovery files limit?
  · rw [hc.two_iff.2 hfault, hd.two_iff.2 hfault]
  · rw [hc.one_iff.2 hreached, hd.one_iff.2 hreached]
  · rw [hc.zero_iff.2 hbelow, hd.zero_iff.2 hbelow]

end FileTree

/-! ## The report before it is cut down -/

namespace Analysis

/-- An outcome holds an error exactly if its file is faulty. -/
theorem errors_outcomeOfFile_ne_nil {a : Analysis} (hregistered : a.registrations = 1)
    (t : FileTree) {file : Path} (h : file.isSupported = true) :
    (a.outcomeOfFile t file).errors ≠ [] ↔ t.Faulty a.recovery file := by
  unfold outcomeOfFile FileTree.Faulty FileTree.usagesIn
  rw [FileTree.parseFile_of_isSupported h]
  cases t.readText file with
  | error fault => simp [Except.map, Outcome.unreadable]
  | ok source =>
    simp only [Except.map, errors_outcome, hregistered, repeated_one, ne_eq, List.map_eq_nil_iff,
      List.filterMap_eq_nil_iff, not_forall]
    constructor
    · rintro ⟨u, hu, hfault⟩
      obtain ⟨e, he⟩ := Option.ne_none_iff_exists'.1 hfault
      have hdebt := Usage.fault?_eq_some_iff.1 he
      obtain ⟨literal, rfl⟩ := Usage.eq_overflow_of_debt? hdebt
      exact .inr ⟨u, hu, literal, u.location, hdebt⟩
    · rintro (⟨fault, hread⟩ | ⟨u, hu, literal, location, hdebt⟩)
      · cases hread
      · refine ⟨u, hu, ?_⟩
        rw [Usage.fault?_eq_some_iff.2 hdebt]
        simp

/-- The diagnostics of a file come from the debts in it. -/
theorem diagnostics_outcomeOfFile {a : Analysis} (hregistered : a.registrations = 1)
    (t : FileTree) {file : Path} (h : file.isSupported = true) :
    (a.outcomeOfFile t file).diagnostics =
      ((t.usagesIn a.recovery file).filterMap Usage.found?).flatMap
        (Debt.diagnostics a.severity?) := by
  unfold outcomeOfFile FileTree.usagesIn
  rw [FileTree.parseFile_of_isSupported h]
  cases t.readText file with
  | error fault => simp [Except.map, Outcome.unreadable]
  | ok source => simp only [Except.map, diagnostics_outcome, hregistered, repeated_one]

/-- The report on some sources has an error exactly if one of them is faulty. -/
theorem hasErrors_ofOutcomes {a : Analysis} (hregistered : a.registrations = 1) (t : FileTree)
    {files : List Path} (hsources : ∀ file ∈ files, file.isSupported = true)
    (filesAnalyzed durationMs : ℕ) :
    (Report.ofOutcomes filesAnalyzed durationMs (files.map (a.outcomeOfFile t))).hasErrors = true ↔
      ∃ file ∈ files, t.Faulty a.recovery file := by
  have hempty : ∀ l : List FileError,
      (l.mergeSort fun x y => x.file.le y.file) = [] ↔ l = [] := by
    intro l
    rw [← List.length_eq_zero_iff, List.length_mergeSort, List.length_eq_zero_iff]
  simp only [Report.hasErrors, Report.ofOutcomes, Bool.not_eq_true', List.isEmpty_eq_false_iff,
    ne_eq, hempty, List.flatMap_map, List.flatMap_eq_nil_iff, not_forall, exists_prop]
  constructor
  · rintro ⟨file, hfile, herrors⟩
    exact ⟨file, hfile, (errors_outcomeOfFile_ne_nil hregistered t (hsources file hfile)).1 herrors⟩
  · rintro ⟨file, hfile, hfaulty⟩
    exact ⟨file, hfile, (errors_outcomeOfFile_ne_nil hregistered t (hsources file hfile)).2 hfaulty⟩

/-- The days of the report on some sources are those declared in them. -/
theorem totalDays_ofOutcomes {a : Analysis} (hregistered : a.registrations = 1) (t : FileTree)
    {files : List Path} (hsources : ∀ file ∈ files, file.isSupported = true)
    (filesAnalyzed durationMs : ℕ) :
    (Report.ofOutcomes filesAnalyzed durationMs
      (files.map (a.outcomeOfFile t))).summary.totalDays = t.declaredDays a.recovery files := by
  have hdiagnostics : files.flatMap (fun file => (a.outcomeOfFile t file).diagnostics) =
      (files.flatMap fun file => (t.usagesIn a.recovery file).filterMap Usage.found?).flatMap
        (Debt.diagnostics a.severity?) := by
    rw [List.flatMap_assoc]
    refine List.flatMap_congr ?_
    intro file hfile
    exact diagnostics_outcomeOfFile hregistered t (hsources file hfile)
  rw [Report.ofOutcomes, Summary.totalDays_eq (List.mergeSort_perm _ _), List.flatMap_map,
    hdiagnostics, Debt.sum_days_flatMap_diagnostics]
  rfl

end Analysis

/-! ## A command that writes its report -/

/-- The options of the analysis that a command line asks for, if it asks for one. -/
def Invocation.analysis? (i : Invocation) : Option AnalyzeOptions :=
  match i.command? with
  | none => some {}
  | some (.analyze o) => some o
  | some .init | some (.rules _) => none

/-- A file can be written for a path. -/
def FileTree.Writable (t : FileTree) (p : Path) : Prop :=
  ∃ place, t.placeToWrite p = .ok place ∧ t.entry? place ≠ some .directory

/-- What an analysis needs in order to write its report. -/
structure FileTree.Ready (t : FileTree) (s : Settings) (path : Path) (o : AnalyzeOptions) :
    Prop where
  format : ∃ format, o.formatUnder s = .ok format
  exclude : ∃ globs, Exclude.parse s.exclude = .ok globs
  path : t.isFile path = true ∨ t.isDirectory path = true
  output : ∀ output, o.output? = some output → t.Writable output

namespace Plan

variable {workers? : Option ℕ} {o : AnalyzeOptions} {s : Settings}

theorem of_ofOptions {plan : Plan} (h : Plan.ofOptions workers? o s = .ok plan) :
    plan.exclude = s.exclude ∧ plan.failOn? = o.failOn?.or s.failOn? := by
  unfold ofOptions at h
  cases hformat : o.formatUnder s with
  | error e => simp [hformat, Except.map] at h
  | ok format =>
    simp only [hformat, Except.map, Except.ok.injEq] at h
    subst h
    exact ⟨rfl, rfl⟩

theorem exists_ofOptions_iff :
    (∃ plan, Plan.ofOptions workers? o s = .ok plan) ↔ ∃ format, o.formatUnder s = .ok format := by
  unfold ofOptions
  cases o.formatUnder s with
  | error e => simp [Except.map]
  | ok format => simp [Except.map]

end Plan

/-- Leaving small diagnostics out of a report leaves its errors in. -/
theorem Report.hasErrors_shown (r : Report) (minDays? : Option ℕ) :
    (minDays?.elim r r.retainMinDays).hasErrors = r.hasErrors := by
  cases minDays? <;> rfl

/-- The exit code says what it should if the report has an error exactly when a file is faulty. -/
theorem Ending.means_exitCode {t : FileTree} {recovery : Recovery} {files : List Path} {r : Report}
    (hfaulty : r.hasErrors = true ↔ ∃ file ∈ files, t.Faulty recovery file) (limit? : Option ℕ) :
    t.Means recovery files limit?
      (Ending.ofReport r (t.declaredDays recovery files) limit?).exitCode := by
  obtain ⟨file, hfile, hfault⟩ | ⟨hsound, limit, rfl, hle⟩ | ⟨hsound, hbelow⟩ :=
    t.faulty_or_limit_reached_or_not recovery files limit?
  · have herrors : r.hasErrors = true := hfaulty.2 ⟨file, hfile, hfault⟩
    have hcode : (Ending.ofReport r (t.declaredDays recovery files) limit?).exitCode = 2 := by
      simp [ofReport, herrors, exitCode]
    rw [hcode]
    exact ⟨iff_of_true rfl ⟨file, hfile, hfault⟩,
      iff_of_false (by decide) fun h => h.1 file hfile hfault,
      iff_of_false (by decide) fun h => h.1 file hfile hfault⟩
  · have hnone : ¬ ∃ file ∈ files, t.Faulty recovery file :=
      fun ⟨file, hfile, h⟩ => hsound file hfile h
    have herrors : ¬ r.hasErrors = true := fun h => hnone (hfaulty.1 h)
    have hcode : (Ending.ofReport r (t.declaredDays recovery files) (some limit)).exitCode = 1 := by
      simp [ofReport, herrors, hle, exitCode]
    rw [hcode]
    exact ⟨iff_of_false (by decide) hnone, iff_of_true rfl ⟨hsound, limit, rfl, hle⟩,
      iff_of_false (by decide) fun h => (h.2 limit rfl).not_ge hle⟩
  · have hnone : ¬ ∃ file ∈ files, t.Faulty recovery file :=
      fun ⟨file, hfile, h⟩ => hsound file hfile h
    have herrors : ¬ r.hasErrors = true := fun h => hnone (hfaulty.1 h)
    have hcode : (Ending.ofReport r (t.declaredDays recovery files) limit?).exitCode = 0 := by
      cases limit? with
      | none => simp [ofReport, herrors, exitCode]
      | some limit => simp [ofReport, herrors, (hbelow limit rfl).not_ge, exitCode]
    rw [hcode]
    refine ⟨iff_of_false (by decide) hnone, iff_of_false (by decide) ?_,
      iff_of_true rfl ⟨hsound, hbelow⟩⟩
    rintro ⟨-, limit, hsome, hle⟩
    exact (hbelow limit hsome).not_ge hle

namespace FileTree

variable {t : FileTree} {s : Settings} {clock : Clock} {path : Path} {workers? : Option ℕ}
  {o : AnalyzeOptions} {recovery : Recovery} {result : RunResult}

theorem reportFor_eq_ok_iff {plan : Plan} {r : Report} :
    t.reportFor clock plan path recovery = .ok r ↔
      ∃ globs files, Exclude.parse plan.exclude = .ok globs ∧ t.collect globs path = .ok files ∧
        Report.ofOutcomes files.length clock.durationMs (files.map (Analysis.outcomeOfFile
          { severity? := plan.severity?, workers := plan.workers, recovery } t)) = r := by
  unfold reportFor Analysis.ofPath
  cases Exclude.parse plan.exclude with
  | error e => simp
  | ok globs =>
    cases hfiles : t.collect globs path with
    | error e => simp [hfiles, Except.map]
    | ok files => simp [hfiles, Except.map]

theorem exitCode_of_deliver {text : String} {output? : Option Path} {ending : Ending}
    (h : t.deliver text output? ending = .ok result) : result.exitCode = ending.exitCode := by
  unfold deliver at h
  split at h
  · cases h
    rfl
  · split at h
    · cases h
    · cases h
      rfl

theorem exists_write_iff {p : Path} {content : List UInt8} :
    (∃ tree, t.write p content = .ok tree) ↔ t.Writable p := by
  unfold write Writable
  cases t.placeToWrite p with
  | error fault => simp [bind, Except.bind]
  | ok place =>
    by_cases hdirectory : t.entry? place = some .directory
    · simp [bind, Except.bind, hdirectory]
    · simp [bind, Except.bind, hdirectory]

theorem exists_deliver_iff {text : String} {output? : Option Path} {ending : Ending} :
    (∃ result, t.deliver text output? ending = .ok result) ↔
      ∀ output, output? = some output → t.Writable output := by
  cases output? with
  | none => simp [deliver]
  | some output =>
    simp only [Option.some.injEq, forall_eq', deliver]
    rw [← exists_write_iff]
    cases t.write output text.toUTF8.data.toList with
    | error fault => simp
    | ok tree => simp

/-- An analysis plans, reports and delivers. -/
theorem analyzeUnder_eq_ok_iff :
    t.analyzeUnder s clock path workers? o recovery = .ok result ↔
      ∃ plan r, Plan.ofOptions workers? o s = .ok plan ∧
        t.reportFor clock plan path recovery = .ok r ∧
        t.deliver (plan.format.render clock.endTime (plan.minDays?.elim r r.retainMinDays))
          o.output? (.ofReport (plan.minDays?.elim r r.retainMinDays) r.summary.totalDays
            plan.failOn?) = .ok result := by
  unfold analyzeUnder
  cases hplan : Plan.ofOptions workers? o s with
  | error e => simp
  | ok plan =>
    cases hreport : t.reportFor clock plan path recovery with
    | error e => simp [hreport]
    | ok r => simp [hreport]

/-- An analysis writes its report exactly if nothing that it needs is missing. -/
theorem exists_analyzeUnder_iff :
    (∃ result, t.analyzeUnder s clock path workers? o recovery = .ok result) ↔
      t.Ready s path o := by
  simp only [analyzeUnder_eq_ok_iff]
  constructor
  · rintro ⟨result, plan, r, hplan, hreport, hdeliver⟩
    obtain ⟨globs, files, hglobs, hfiles, -⟩ := reportFor_eq_ok_iff.1 hreport
    rw [(Plan.of_ofOptions hplan).1] at hglobs
    exact ⟨Plan.exists_ofOptions_iff.1 ⟨plan, hplan⟩, ⟨globs, hglobs⟩,
      exists_collect_iff.1 ⟨files, hfiles⟩, exists_deliver_iff.1 ⟨result, hdeliver⟩⟩
  · intro hready
    obtain ⟨plan, hplan⟩ : ∃ plan, Plan.ofOptions workers? o s = .ok plan :=
      Plan.exists_ofOptions_iff.2 hready.format
    obtain ⟨globs, hglobs⟩ := hready.exclude
    obtain ⟨files, hfiles⟩ := exists_collect_iff.2 hready.path
    rw [← (Plan.of_ofOptions hplan).1] at hglobs
    obtain ⟨r, hreport⟩ : ∃ r, t.reportFor clock plan path recovery = .ok r :=
      ⟨_, reportFor_eq_ok_iff.2 ⟨globs, files, hglobs, hfiles, rfl⟩⟩
    obtain ⟨result, hresult⟩ := exists_deliver_iff.2 hready.output
    exact ⟨result, plan, r, hplan, hreport, hresult⟩

/-- The exit code of an analysis speaks of the files that are collected and of the limit. -/
theorem means_of_analyzeUnder (h : t.analyzeUnder s clock path workers? o recovery = .ok result) :
    ∃ globs files, Exclude.parse s.exclude = .ok globs ∧ t.collect globs path = .ok files ∧
      t.Means recovery files (o.failOn?.or s.failOn?) result.exitCode := by
  obtain ⟨plan, r, hplan, hreport, hdeliver⟩ := analyzeUnder_eq_ok_iff.1 h
  obtain ⟨globs, files, hglobs, hfiles, rfl⟩ := reportFor_eq_ok_iff.1 hreport
  obtain ⟨hexclude, hlimit⟩ := Plan.of_ofOptions hplan
  have hsources : ∀ file ∈ files, file.isSupported = true :=
    fun file hfile => isSupported_of_mem_collect hfiles hfile
  refine ⟨globs, files, hexclude ▸ hglobs, hfiles, ?_⟩
  rw [exitCode_of_deliver hdeliver, Analysis.totalDays_ofOutcomes rfl t hsources, hlimit]
  refine Ending.means_exitCode ?_ _
  rw [Report.hasErrors_shown]
  exact Analysis.hasErrors_ofOutcomes rfl t hsources _ _

end FileTree

/-- A command line that asks for an analysis does it. -/
theorem Invocation.run_eq_analyze {i : Invocation} {o : AnalyzeOptions}
    (hasks : i.analysis? = some o) (clock : Clock) (t : FileTree) (recovery : Recovery) :
    i.run clock t recovery = t.analyze clock i.path i.workers? o recovery := by
  unfold Invocation.analysis? at hasks
  split at hasks
  · next hcommand =>
    cases hasks
    simp only [Invocation.run, hcommand]
  · next hcommand =>
    cases hasks
    simp only [Invocation.run, hcommand]
  · cases hasks
  · cases hasks

/-- A command line that asks for an analysis is answered by it. -/
theorem Program.run_eq_of_analyze {arguments : List String} {i : Invocation} {o : AnalyzeOptions}
    {clock : Clock} {t : FileTree} {recovery : Recovery} {result : RunResult}
    (hparse : CommandLine.parse arguments = .ok i) (hasks : i.analysis? = some o)
    (h : t.analyze clock i.path i.workers? o recovery = .ok result) :
    Program.run clock t arguments recovery = result := by
  have hrun : i.run clock t recovery = .ok result :=
    (Invocation.run_eq_analyze hasks clock t recovery).trans h
  simp only [Program.run, hparse, hrun]

/-! ## The exit code -/

/-- **The exit code is decided by the collected files and the limit.** An analysis writes its report
exactly if nothing that it needs is missing. Its exit code is then 2 if a file is faulty, otherwise
1 if the limit of the command line, or else of the settings, is reached by the declared days, and
otherwise 0; a run of the program that asks for the analysis ends with it. Hence two analyses of a
path that have the same limit and leave out the same files end with the same exit code, whatever
else the settings and the command line say. -/
theorem exitCode_decided_by_files_and_limit (t : FileTree) (s : Settings) (clock : Clock)
    (path : Path) (workers? : Option ℕ) (o : AnalyzeOptions) (recovery : Recovery) :
    ((∃ result, t.analyzeUnder s clock path workers? o recovery = .ok result) ↔
      t.Ready s path o) ∧
    ∀ result, t.analyzeUnder s clock path workers? o recovery = .ok result →
      (∃ globs files, Exclude.parse s.exclude = .ok globs ∧ t.collect globs path = .ok files ∧
        t.Means recovery files (o.failOn?.or s.failOn?) result.exitCode) ∧
      (∀ (arguments : List String) (i : Invocation), CommandLine.parse arguments = .ok i →
        i.path = path → i.workers? = workers? → i.analysis? = some o → t.settings path = s →
        (Program.run clock t arguments recovery).exitCode = result.exitCode) ∧
      ∀ (s' : Settings) (clock' : Clock) (workers?' : Option ℕ) (o' : AnalyzeOptions)
        (result' : RunResult), s'.exclude = s.exclude →
        o'.failOn?.or s'.failOn? = o.failOn?.or s.failOn? →
        t.analyzeUnder s' clock' path workers?' o' recovery = .ok result' →
        result'.exitCode = result.exitCode := by
  refine ⟨FileTree.exists_analyzeUnder_iff, ?_⟩
  intro result h
  obtain ⟨globs, files, hglobs, hfiles, hmeans⟩ := FileTree.means_of_analyzeUnder h
  refine ⟨⟨globs, files, hglobs, hfiles, hmeans⟩, ?_, ?_⟩
  · rintro arguments i hparse rfl rfl hasks rfl
    rw [Program.run_eq_of_analyze hparse hasks h]
  · intro s' clock' workers?' o' result' hexclude hlimit h'
    obtain ⟨globs', files', hglobs', hfiles', hmeans'⟩ := FileTree.means_of_analyzeUnder h'
    -- The same patterns exclude the same files, so both codes speak of the same files.
    rw [hexclude, hglobs] at hglobs'
    cases hglobs'
    rw [hfiles] at hfiles'
    cases hfiles'
    rw [hlimit] at hmeans'
    exact hmeans'.unique hmeans

/-- The source that declares twelve days is not faulty, and the other two are. -/
theorem faulty_mixedTree :
    ¬ mixedTree.Faulty .empty ⟨"./a.cs"⟩ ∧ mixedTree.Faulty .empty ⟨"./src/b.cs"⟩ ∧
      mixedTree.Faulty .empty ⟨"./src/c.cs"⟩ := by
  have hiff : ∀ file : Path, file.isSupported = true →
      ((({} : Analysis).outcomeOfFile mixedTree file).errors ≠ [] ↔
        mixedTree.Faulty .empty file) :=
    fun file => Analysis.errors_outcomeOfFile_ne_nil rfl mixedTree
  have houtcomes := map_outcomeOfFile_mixedTree
  simp only [mixedFiles, mixedOutcomes, List.map_cons, List.map_nil, List.cons.injEq] at houtcomes
  obtain ⟨ha, hb, hc, -⟩ := houtcomes
  refine ⟨?_, ?_, ?_⟩
  · rw [← hiff _ (by decide), ha]
    simp
  · rw [← hiff _ (by decide), hb]
    simp
  · rw [← hiff _ (by decide), hc]
    simp

set_option maxRecDepth 100000 in
theorem declaredDays_mixedTree : mixedTree.declaredDays .empty [⟨"./a.cs"⟩] = 12 := by
  simp only [FileTree.declaredDays, FileTree.usagesIn, CSharp.parseSource_eq]
  decide +kernel

/-- The sources of the tree that are not text or have a cost that is too large make the exit code 2,
also where the limit is reached; what is shown, how and where to makes no difference. For the source
that declares twelve days alone, the exit code is 1 with a limit of twelve days and 0 with one of
thirteen. -/
theorem exitCode_mixedTree :
    (∃ result,
      mixedTree.analyzeUnder {} ⟨0, ""⟩ ⟨"."⟩ none { failOn? := some 12 } .empty = .ok result ∧
      result.exitCode = 2 ∧
      (Program.run ⟨0, ""⟩ mixedTree ["analyze", "--fail-on", "12"]).exitCode = 2 ∧
      ∃ result', mixedTree.analyzeUnder { severity? := some .error, failOn? := some 12 } ⟨7, ""⟩
        ⟨"."⟩ (some 2) { format? := some .sarif, minDays? := some 9, output? := some ⟨"out"⟩ }
          .empty = .ok result' ∧ result'.exitCode = 2) ∧
    ∀ limit code, (limit, code) ∈ [(12, 1), (13, 0)] → ∃ result,
      mixedTree.analyzeUnder {} ⟨0, ""⟩ ⟨"./a.cs"⟩ none { failOn? := some limit } .empty =
        .ok result ∧ result.exitCode = code := by
  obtain ⟨hsound, hfaulty, -⟩ := faulty_mixedTree
  have hformat : ∀ limit,
      AnalyzeOptions.formatUnder { failOn? := some limit } {} = .ok .text := by
    intro limit
    cbv
  have hparse : CommandLine.parse ["analyze", "--fail-on", "12"] =
      .ok ⟨⟨"."⟩, .warn, none, some (.analyze { failOn? := some 12 })⟩ := by rfl
  constructor
  · obtain ⟨hready, hcode⟩ := exitCode_decided_by_files_and_limit mixedTree {} ⟨0, ""⟩ ⟨"."⟩ none
      { failOn? := some 12 } .empty
    obtain ⟨hready', -⟩ := exitCode_decided_by_files_and_limit mixedTree
      { severity? := some .error, failOn? := some 12 } ⟨7, ""⟩ ⟨"."⟩ (some 2)
      { format? := some .sarif, minDays? := some 9, output? := some ⟨"out"⟩ } .empty
    obtain ⟨result, h⟩ := hready.2 ⟨⟨.text, hformat 12⟩, ⟨[], rfl⟩, .inr (by decide), by simp⟩
    obtain ⟨result', h'⟩ := hready'.2 ⟨⟨.sarif, rfl⟩, ⟨[], rfl⟩, .inr (by decide), by
      rintro output ⟨⟩
      exact ⟨["out"], by decide, by decide⟩⟩
    obtain ⟨⟨globs, files, hglobs, hfiles, hmeans⟩, hrun, hsame⟩ := hcode result h
    cases hglobs
    cases collect_mixedTree.symm.trans hfiles
    have htwo : result.exitCode = 2 :=
      hmeans.two_iff.2 ⟨⟨"./src/b.cs"⟩, by simp [mixedFiles], hfaulty⟩
    refine ⟨result, h, htwo, ?_, result', h', ?_⟩
    · rw [hrun _ _ hparse rfl rfl rfl (by decide), htwo]
    · rw [hsame _ _ _ _ _ (by rfl) (by rfl) h', htwo]
  · intro limit code hlimit
    obtain ⟨hready, hcode⟩ := exitCode_decided_by_files_and_limit mixedTree {} ⟨0, ""⟩ ⟨"./a.cs"⟩
      none { failOn? := some limit } .empty
    obtain ⟨result, h⟩ :=
      hready.2 ⟨⟨.text, hformat limit⟩, ⟨[], rfl⟩, .inl (by decide), by simp⟩
    obtain ⟨⟨globs, files, hglobs, hfiles, hmeans⟩, -, -⟩ := hcode result h
    cases hglobs
    have hone : mixedTree.collect [] ⟨"./a.cs"⟩ = .ok [⟨"./a.cs"⟩] := by decide
    cases hone.symm.trans hfiles
    refine ⟨result, h, ?_⟩
    simp only [List.mem_cons, List.not_mem_nil, or_false, Prod.mk.injEq] at hlimit
    obtain ⟨rfl, rfl⟩ | ⟨rfl, rfl⟩ := hlimit
    · exact hmeans.one_iff.2 ⟨by simpa using hsound, 12, rfl, declaredDays_mixedTree.ge⟩
    · refine hmeans.zero_iff.2 ⟨by simpa using hsound, ?_⟩
      rintro limit ⟨⟩
      rw [declaredDays_mixedTree]
      decide

end DeclaredDebt
