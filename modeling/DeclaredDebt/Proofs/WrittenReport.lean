import DeclaredDebt.Proofs.ExitCode
import DeclaredDebt.Proofs.Provenance

/-!
# The report that a run writes

An analysis writes its report to the standard output or to a file. A report in text closes with the
statement that no debt is declared if it has neither diagnostics nor errors left to show. All other
parts of it end with a blank line, so that the statement is never mistaken for one of them. The
diagnostics are those that the threshold of days leaves over: where it leaves none, the statement is
made although debt may be declared.

## Main definitions

* `FileTree.Writes`: the report that a run has written.
* `Text.ClosingLine`, `Text.ClosesSaying`: the last line of a text, and what it says.
* `FileTree.debtsIn`: the debts that are declared in some files.
-/

namespace DeclaredDebt

/-! ## Where a report goes -/

namespace FileTree

/-- A run on a tree has written a text as its report: to the standard output, or into the file that
its output path stands for. -/
def Writes (t : FileTree) (output? : Option Path) (result : RunResult) (text : String) : Prop :=
  match output? with
  | none => result.stdout = text
  | some output => ∃ place, t.placeToWrite output = .ok place ∧
      result.tree.entry? place = some (.file text.toUTF8.data.toList)

/-- A file at a place changes no key of the entries. -/
theorem key_comp_put (place : List String) (content : List UInt8) (key : List String → Bool) :
    ((fun e : List String × Entry => key e.1) ∘ fun e =>
      if e.1 == place then (e.1, Entry.file content) else e) = fun e => key e.1 := by
  funext e
  simp only [Function.comp_apply]
  split <;> rfl

/-- A file that is put at a place is found there. -/
theorem entry?_setFile_self (t : FileTree) (place : List String) (content : List UInt8) :
    FileTree.entry? (t.setFile place content) place = some (.file content) := by
  unfold setFile
  split
  · next hlisted =>
    obtain ⟨e, he, hplace⟩ := List.any_eq_true.1 hlisted
    have hfind : ∃ found, t.entries.find? (·.1 == place) = some found :=
      Option.isSome_iff_exists.1 (List.find?_isSome.2 ⟨e, he, hplace⟩)
    obtain ⟨found, hfound⟩ := hfind
    have hfoundAt : (found.1 == place) = true := by simpa using List.find?_some hfound
    simp only [List.find?_map, key_comp_put place content (· == place), hfound, Option.map_some,
      hfoundAt, if_true, entry?]
  · next hlisted =>
    have hnone : t.entries.find? (·.1 == place) = none := by
      rw [List.find?_eq_none]
      intro e he hplace
      exact hlisted (List.any_eq_true.2 ⟨e, he, hplace⟩)
    simp [List.find?_append, hnone, entry?]

/-- A file that is put somewhere else brings at most the directories above it. -/
theorem entry?_setFile_of_ne (t : FileTree) {p place : List String} (hne : p ≠ place)
    (content : List UInt8) :
    FileTree.entry? (t.setFile place content) p =
      (t.entry? p).or (if p <+: place then some .directory else none) := by
  unfold setFile
  split
  · next hlisted =>
    simp only [List.find?_map, List.any_map, key_comp_put place content (· == p),
      key_comp_put place content p.isPrefixOf, entry?]
    cases hfind : t.entries.find? (·.1 == p) with
    | some found =>
      have hfoundAt : found.1 = p := by simpa using List.find?_some hfind
      simp [hfoundAt, hne]
    | none =>
      obtain ⟨e, he, hplace⟩ := List.any_eq_true.1 hlisted
      have habove : p <+: place → (t.entries.any fun e => p.isPrefixOf e.1) = true := by
        intro hp
        refine List.any_eq_true.2 ⟨e, he, ?_⟩
        rw [eq_of_beq hplace, List.isPrefixOf_iff_prefix]
        exact hp
      by_cases hp : p <+: place
      · simp [habove hp]
      · simp [hp]
  · next hlisted =>
    have hother : (place == p) = false := by simpa using Ne.symm hne
    simp only [List.find?_append, List.find?_cons, hother, List.find?_nil, Option.or_none,
      List.any_append, List.any_cons, List.any_nil, Bool.or_false, entry?]
    cases hfind : t.entries.find? (·.1 == p) with
    | some found => simp
    | none =>
      by_cases hp : p <+: place
      · rw [List.isPrefixOf_iff_prefix.2 hp]
        simp only [Bool.or_true, if_true, hp]
        split <;> rfl
      · have hp' : p.isPrefixOf place = false := by
          rw [Bool.eq_false_iff, ne_eq, List.isPrefixOf_iff_prefix]
          exact hp
        simp only [hp', Bool.or_false, hp, if_false, Option.or_none]

@[simp] theorem top_setFile (t : FileTree) (place : List String) (content : List UInt8) :
    (t.setFile place content).top = t.top := by
  unfold setFile
  split <;> rfl

@[simp] theorem workingDirectory_setFile (t : FileTree) (place : List String)
    (content : List UInt8) :
    (t.setFile place content).workingDirectory = t.workingDirectory := by
  unfold setFile
  split <;> rfl

theorem of_write_eq_ok {t t' : FileTree} {p : Path} {content : List UInt8}
    (h : t.write p content = .ok t') :
    ∃ place, t.placeToWrite p = .ok place ∧ t' = t.setFile place content := by
  unfold write at h
  cases hplace : t.placeToWrite p with
  | error fault => simp [hplace, bind, Except.bind] at h
  | ok place =>
    refine ⟨place, rfl, ?_⟩
    simp only [hplace, bind, Except.bind] at h
    split at h
    · cases h
    · exact (Except.ok.inj h).symm

/-- What is delivered is what is written. -/
theorem writes_of_deliver {t : FileTree} {text : String} {output? : Option Path} {ending : Ending}
    {result : RunResult} (h : t.deliver text output? ending = .ok result) :
    t.Writes output? result text := by
  unfold deliver at h
  cases output? with
  | none =>
    cases h
    rfl
  | some output =>
    cases hwrite : t.write output text.toUTF8.data.toList with
    | error fault =>
      simp only [hwrite] at h
      cases h
    | ok tree =>
      simp only [hwrite, Except.ok.injEq] at h
      obtain ⟨place, hplace, rfl⟩ := of_write_eq_ok hwrite
      rw [← h]
      exact ⟨place, hplace, t.entry?_setFile_self place _⟩

end FileTree

theorem Plan.ofOptions_of_formatUnder {workers? : Option ℕ} {o : AnalyzeOptions} {s : Settings}
    {format : Format} (h : o.formatUnder s = .ok format) :
    Plan.ofOptions workers? o s = .ok {
      format
      workers := (workers?.or s.workers?).getD 0
      failOn? := o.failOn?.or s.failOn?
      minDays? := o.minDays?.or s.minDays?
      exclude := s.exclude
      severity? := s.severity? } := by
  simp only [ofOptions, h, Except.map]

/-! ## Closing lines -/

namespace Text

/-- The last line of a text, without the newline that ends it. -/
def ClosingLine (line text : List Char) : Prop :=
  '\n' ∉ line ∧ ∃ before, text = before ++ line ++ ['\n'] ∧ (before = [] ∨ ['\n'] <:+ before)

/-- The last line of a text contains a statement. -/
def ClosesSaying (statement text : String) : Prop :=
  ∃ line, ClosingLine line text.toList ∧ statement.toList <:+: line

/-- A text that ends with a newline. -/
def EndsLine (text : String) : Prop := ['\n'] <:+ text.toList

/-- A text that ends with a blank line. -/
def EndsBlank (text : String) : Prop := ['\n', '\n'] <:+ text.toList

theorem EndsLine.append (text : String) {more : String} (h : EndsLine more) :
    EndsLine (text ++ more) := by
  rw [EndsLine, String.toList_append]
  exact List.suffix_append_of_suffix h

theorem endsLine_newline (text : String) : EndsLine (text ++ "\n") :=
  EndsLine.append text (List.suffix_refl _)

theorem endsBlank_newlines (text : String) : EndsBlank (text ++ "\n\n") := by
  have hnewlines : "\n\n".toList = ['\n', '\n'] := rfl
  rw [EndsBlank, String.toList_append, hnewlines]
  exact List.suffix_append _ _

theorem EndsLine.blank {text : String} (h : EndsLine text) : EndsBlank (text ++ "\n") := by
  obtain ⟨before, hbefore⟩ := h
  refine ⟨before, ?_⟩
  rw [String.toList_append, ← hbefore, List.append_assoc]
  rfl

/-- Lines behind a line. -/
theorem EndsLine.append_join {text : String} (h : EndsLine text) {lines : List String}
    (hlines : ∀ line ∈ lines, EndsLine line) : EndsLine (text ++ String.join lines) := by
  induction lines generalizing text with
  | nil => simpa using h
  | cons line lines ih =>
    rw [String.join_cons, ← String.append_assoc]
    exact ih (EndsLine.append text (hlines line (by simp))) fun l hl => hlines l (by simp [hl])

/-- Behind a blank line, nothing or something that itself ends with a blank line leaves a blank line
at the end. -/
theorem EndsBlank.append {text more : String} (h : EndsBlank text)
    (hmore : more = "" ∨ EndsBlank more) : EndsBlank (text ++ more) := by
  obtain rfl | hmore := hmore
  · simpa using h
  · rw [EndsBlank, String.toList_append]
    exact List.suffix_append_of_suffix hmore

theorem EndsBlank.endsLine {text : String} (h : EndsBlank text) : EndsLine text :=
  List.IsSuffix.trans ⟨['\n'], rfl⟩ h

/-- A text with a blank line at its end closes with that line, which says nothing. -/
theorem EndsBlank.not_closesSaying {text statement : String} (h : EndsBlank text)
    (hstatement : statement ≠ "") : ¬ ClosesSaying statement text := by
  rintro ⟨line, ⟨hnewline, before, htext, -⟩, hstated⟩
  obtain ⟨front, hfront⟩ := h
  have hbefore : front ++ ['\n'] = before ++ line := by
    rw [htext, show ['\n', '\n'] = ['\n'] ++ ['\n'] from rfl, ← List.append_assoc] at hfront
    exact List.append_cancel_right hfront
  -- The newline before the last one would be in the line, unless the line is empty.
  have hempty : line = [] := by
    by_contra hne
    have hlast : line.getLast? = some '\n' := by
      have := congrArg List.getLast? hbefore
      rw [List.getLast?_append_of_ne_nil _ hne] at this
      simpa using this.symm
    exact hnewline (List.mem_of_getLast? hlast)
  rw [hempty, List.infix_nil, String.toList_eq_nil_iff] at hstated
  exact hstatement hstated

/-- A line behind another line closes a text. -/
theorem EndsLine.closesSaying {text : String} (h : EndsLine text) {line statement : String}
    (hline : '\n' ∉ line.toList) (hstated : statement.toList <:+: line.toList) :
    ClosesSaying statement (text ++ (line ++ "\n")) := by
  refine ⟨line.toList, ⟨hline, text.toList, ?_, .inr h⟩, hstated⟩
  rw [String.toList_append, String.toList_append, List.append_assoc]
  rfl

end Text

/-! ## The parts of a report in text -/

namespace TextReport

open Text

theorem endsLine_dimLine (text : String) : EndsLine (dimLine text) := endsLine_newline _

theorem endsBlank_heading (r : Report) : EndsBlank (heading r) := endsBlank_newlines _

theorem endsBlank_table (diagnostics : List Diagnostic) :
    table diagnostics = "" ∨ EndsBlank (table diagnostics) := by
  unfold table
  split
  · exact .inl rfl
  · right
    refine EndsLine.blank ?_
    have hrows : EndsLine (dimLine "  SEV  DAYS  RULE               LOCATION" ++
        dimLine ("  " ++ rule 65) ++ String.join ((diagnostics.take maxListed).map row)) := by
      refine (EndsLine.append _ (endsLine_dimLine _)).append_join ?_
      intro line hline
      obtain ⟨d, -, rfl⟩ := List.mem_map.1 hline
      exact endsLine_newline _
    split
    · simpa using hrows
    · exact EndsLine.append _ (EndsLine.append _ (endsLine_dimLine _))

theorem endsBlank_counts (byRule : Tally) :
    counts byRule = "" ∨ EndsBlank (counts byRule) := by
  unfold counts
  split
  · exact .inl rfl
  · right
    refine ((endsLine_newline _).append_join ?_).blank
    intro line hline
    obtain ⟨e, -, rfl⟩ := List.mem_map.1 hline
    exact endsLine_newline _

theorem endsBlank_errors (es : List FileError) : errors es = "" ∨ EndsBlank (errors es) := by
  unfold errors
  split
  · exact .inl rfl
  · right
    refine (EndsLine.append_join (EndsLine.append _ ⟨[')'], rfl⟩) ?_).blank
    intro line hline
    obtain ⟨e, -, rfl⟩ := List.mem_map.1 hline
    exact endsLine_newline _

/-- **A report in text closes with the statement exactly if it has nothing to show.** -/
theorem closesSaying_render_iff (r : Report) :
    ClosesSaying "No manual technical debt declared." (render r) ↔
      r.diagnostics = [] ∧ r.errors = [] := by
  have hblank : EndsBlank
      (heading r ++ table r.diagnostics ++ counts r.summary.byRule ++ errors r.errors) :=
    (((endsBlank_heading r).append (endsBlank_table _)).append (endsBlank_counts _)).append
      (endsBlank_errors _)
  have hclosing : closing r = if r.diagnostics = [] ∧ r.errors = [] then
      dimLine "No manual technical debt declared." else "" := by
    simp [closing, Report.hasErrors, List.isEmpty_iff]
  rw [render, hclosing]
  split
  · next hnothing =>
    refine iff_of_true (hblank.endsLine.closesSaying (by decide) ?_) hnothing
    exact ⟨dim.toList, reset.toList, by decide⟩
  · next hsomething =>
    refine iff_of_false ?_ hsomething
    rw [String.append_empty]
    exact hblank.not_closesSaying (by decide)

end TextReport

/-! ## What is left to show -/

/-- The debts that are declared in some files of a tree. -/
def FileTree.debtsIn (t : FileTree) (recovery : Recovery) (files : List Path) : List Debt :=
  files.flatMap fun file => (t.usagesIn recovery file).filterMap Usage.found?

/-- A report shows the diagnostics of at least as many days as the threshold, if there is one. -/
theorem Report.diagnostics_shown (r : Report) (minDays? : Option ℕ) :
    (minDays?.elim r r.retainMinDays).diagnostics =
      r.diagnostics.filter (minDays?.getD 0 ≤ ·.days) := by
  cases minDays? with
  | none => simp
  | some minDays => rfl

theorem Report.errors_shown (r : Report) (minDays? : Option ℕ) :
    (minDays?.elim r r.retainMinDays).errors = r.errors := by
  cases minDays? <;> rfl

namespace Analysis

/-- The diagnostics on some sources are one for each tier of the debts in them. -/
theorem mem_diagnostics_iff {a : Analysis} (hregistered : a.registrations = 1) (t : FileTree)
    {files : List Path} (hsources : ∀ file ∈ files, file.isSupported = true)
    (filesAnalyzed durationMs : ℕ) (d : Diagnostic) :
    d ∈ (Report.ofOutcomes filesAnalyzed durationMs (files.map (a.outcomeOfFile t))).diagnostics ↔
      ∃ debt ∈ t.debtsIn a.recovery files, d ∈ debt.diagnostics a.severity? := by
  rw [Report.mem_diagnostics_ofOutcomes, FileTree.debtsIn]
  constructor
  · rintro ⟨o, ho, hd⟩
    obtain ⟨file, hfile, rfl⟩ := List.mem_map.1 ho
    rw [diagnostics_outcomeOfFile hregistered t (hsources file hfile), List.mem_flatMap] at hd
    obtain ⟨debt, hdebt, hd⟩ := hd
    exact ⟨debt, List.mem_flatMap.2 ⟨file, hfile, hdebt⟩, hd⟩
  · rintro ⟨debt, hdebt, hd⟩
    obtain ⟨file, hfile, hdebt⟩ := List.mem_flatMap.1 hdebt
    refine ⟨_, List.mem_map_of_mem hfile, ?_⟩
    rw [diagnostics_outcomeOfFile hregistered t (hsources file hfile)]
    exact List.mem_flatMap.2 ⟨debt, hdebt, hd⟩

/-- The report on some sources has no error exactly if none of them is faulty. -/
theorem errors_ofOutcomes_eq_nil_iff {a : Analysis} (hregistered : a.registrations = 1)
    (t : FileTree) {files : List Path} (hsources : ∀ file ∈ files, file.isSupported = true)
    (filesAnalyzed durationMs : ℕ) :
    (Report.ofOutcomes filesAnalyzed durationMs (files.map (a.outcomeOfFile t))).errors = [] ↔
      ∀ file ∈ files, ¬ t.Faulty a.recovery file := by
  have hfaulty := hasErrors_ofOutcomes hregistered t hsources filesAnalyzed durationMs
  rw [Report.hasErrors, Bool.not_eq_true', List.isEmpty_eq_false_iff] at hfaulty
  rw [← not_iff_not, ← ne_eq, hfaulty]
  simp

/-- No diagnostic reaches a threshold exactly if every tier of every debt is below it. -/
theorem filter_diagnostics_eq_nil_iff {a : Analysis} (hregistered : a.registrations = 1)
    (t : FileTree) {files : List Path} (hsources : ∀ file ∈ files, file.isSupported = true)
    (filesAnalyzed durationMs minDays : ℕ) :
    (Report.ofOutcomes filesAnalyzed durationMs
        (files.map (a.outcomeOfFile t))).diagnostics.filter (minDays ≤ ·.days) = [] ↔
      ∀ debt ∈ t.debtsIn a.recovery files, ∀ cost ∈ costTiers debt.days, cost < minDays := by
  simp only [List.filter_eq_nil_iff, mem_diagnostics_iff hregistered t hsources,
    decide_eq_true_eq, not_le]
  constructor
  · intro h debt hdebt cost hcost
    exact h (Diagnostic.ofBucket a.severity? debt.location debt.displayName ⟨cost⟩)
      ⟨debt, hdebt, List.mem_map.2 ⟨cost, hcost, rfl⟩⟩
  · rintro h d ⟨debt, hdebt, hd⟩
    obtain ⟨cost, hcost, rfl⟩ := List.mem_map.1 hd
    exact h debt hdebt cost hcost

end Analysis

/-- A day count has no tier below one day, so a threshold of one day hides nothing. -/
theorem forall_costTiers_lt_iff {days bound : ℕ} (hbound : bound ≤ 1) :
    (∀ cost ∈ costTiers days, cost < bound) ↔ days = 0 := by
  constructor
  · intro h
    by_contra hdays
    have hsum : (costTiers days).sum ≠ 0 := by
      rw [sum_costTiers, reportedDays]
      omega
    obtain ⟨cost, hcost, hne⟩ := List.exists_mem_ne_zero_of_sum_ne_zero hsum
    have hlt := h cost hcost
    omega
  · rintro rfl cost hcost
    simp [costTiers, clampThreshold] at hcost

namespace FileTree

/-- An analysis with a report in text writes what is left to show of the report on the collected
files. -/
theorem exists_writes_of_analyzeUnder {t : FileTree} {s : Settings} {clock : Clock} {path : Path}
    {workers? : Option ℕ} {o : AnalyzeOptions} {recovery : Recovery} {result : RunResult}
    (hformat : o.formatUnder s = .ok .text)
    (hrun : t.analyzeUnder s clock path workers? o recovery = .ok result) :
    ∃ globs files, Exclude.parse s.exclude = .ok globs ∧ t.collect globs path = .ok files ∧
      let r := Report.ofOutcomes files.length clock.durationMs (files.map (Analysis.outcomeOfFile
        { severity? := s.severity?, workers := (workers?.or s.workers?).getD 0, recovery } t))
      t.Writes o.output? result
        (TextReport.render ((o.minDays?.or s.minDays?).elim r r.retainMinDays)) := by
  obtain ⟨plan, r, hplan, hreport, hdeliver⟩ := analyzeUnder_eq_ok_iff.1 hrun
  cases hplan.symm.trans (Plan.ofOptions_of_formatUnder hformat)
  obtain ⟨globs, files, hglobs, hfiles, rfl⟩ := reportFor_eq_ok_iff.1 hreport
  exact ⟨globs, files, hglobs, hfiles, writes_of_deliver hdeliver⟩

/-- **A report in text closes with the statement that no debt is declared exactly if nothing is left
to show.** That is so if no collected file is faulty and every tier of every debt declared in them
is below the threshold that the command line, or else the settings, give. With no threshold, or one
of at most one day, the statement is made exactly if no debt of any days is declared; with a larger
one it is also made where all that is declared is hidden. -/
theorem closing_line_iff_nothing_left (t : FileTree) (clock : Clock) (path : Path)
    (workers? : Option ℕ) (o : AnalyzeOptions) (recovery : Recovery) (result : RunResult)
    (hformat : o.formatUnder (t.settings path) = .ok .text)
    (hrun : t.analyze clock path workers? o recovery = .ok result) :
    let minDays := (o.minDays?.or (t.settings path).minDays?).getD 0
    ∃ globs files text, Exclude.parse (t.settings path).exclude = .ok globs ∧
      t.collect globs path = .ok files ∧ t.Writes o.output? result text ∧
      (Text.ClosesSaying "No manual technical debt declared." text ↔
        (∀ file ∈ files, ¬ t.Faulty recovery file) ∧
        ∀ debt ∈ t.debtsIn recovery files, ∀ cost ∈ costTiers debt.days, cost < minDays) ∧
      (minDays ≤ 1 → (Text.ClosesSaying "No manual technical debt declared." text ↔
        (∀ file ∈ files, ¬ t.Faulty recovery file) ∧
        ∀ debt ∈ t.debtsIn recovery files, debt.days = 0)) := by
  intro minDays
  obtain ⟨globs, files, hglobs, hfiles, hwrites⟩ := exists_writes_of_analyzeUnder hformat hrun
  have hsources : ∀ file ∈ files, file.isSupported = true :=
    fun file hfile => isSupported_of_mem_collect hfiles hfile
  refine ⟨globs, files, _, hglobs, hfiles, hwrites, ?_⟩
  rw [TextReport.closesSaying_render_iff, Report.diagnostics_shown, Report.errors_shown,
    Analysis.filter_diagnostics_eq_nil_iff rfl t hsources,
    Analysis.errors_ofOutcomes_eq_nil_iff rfl t hsources]
  refine ⟨and_comm, ?_⟩
  intro hbound
  rw [and_comm]
  refine and_congr_right fun _ => forall₂_congr ?_
  intro debt _
  exact forall_costTiers_lt_iff hbound

/-- A tree with one source, which declares twenty-five days of debt. -/
def oneDebtTree : FileTree where
  entries := [(["a.cs"], .file (String.ofList twoTierSource).toUTF8.toList)]

set_option maxRecDepth 100000 in
theorem usagesIn_oneDebtTree :
    (oneDebtTree.usagesIn .empty ⟨"a.cs"⟩).map (fun u => (u.found?.map (·.days), u.fault?)) =
      [(some 25, none)] := by
  simp only [usagesIn, CSharp.parseSource_eq]
  decide +kernel

theorem settings_oneDebtTree : oneDebtTree.settings ⟨"a.cs"⟩ = {} := by decide +kernel

theorem collect_oneDebtTree : oneDebtTree.collect [] ⟨"a.cs"⟩ = .ok [⟨"a.cs"⟩] := by
  decide +kernel

/-- The source is read without a fault, and its only debt is that of twenty-five days. -/
theorem sound_oneDebtTree :
    ¬ oneDebtTree.Faulty .empty ⟨"a.cs"⟩ ∧
      (oneDebtTree.debtsIn .empty [⟨"a.cs"⟩]).map (·.days) = [25] := by
  obtain ⟨u, husages, hu⟩ := List.map_eq_singleton_iff.1 usagesIn_oneDebtTree
  obtain ⟨hfound, hfault⟩ := Prod.mk.inj hu
  constructor
  · rintro (⟨fault, hread⟩ | ⟨v, hv, literal, location, hdebt⟩)
    · simp [usagesIn, hread] at husages
    · rw [husages, List.mem_singleton] at hv
      subst hv
      rw [Usage.fault?_eq_some_iff.2 hdebt] at hfault
      cases hfault
  · obtain ⟨debt, hdebt, hdays⟩ := Option.map_eq_some_iff.1 hfound
    simp [debtsIn, husages, hdebt, hdays]

/-- An analysis of that source with some threshold, or without one, is done. -/
theorem exists_analyze_oneDebtTree (minDays? : Option ℕ) :
    AnalyzeOptions.formatUnder { minDays? } (oneDebtTree.settings ⟨"a.cs"⟩) = .ok .text ∧
    ∃ result, oneDebtTree.analyze ⟨0, ""⟩ ⟨"a.cs"⟩ none { minDays? } .empty = .ok result := by
  have hformat : AnalyzeOptions.formatUnder { minDays? } (oneDebtTree.settings ⟨"a.cs"⟩) =
      .ok .text := by
    rw [settings_oneDebtTree]
    have hname : Format.ofName "text" = .ok .text := by cbv
    exact hname
  refine ⟨hformat, exists_analyzeUnder_iff.2 ⟨⟨.text, hformat⟩, ?_, .inl ?_, by simp⟩⟩
  · rw [settings_oneDebtTree]
    exact ⟨[], rfl⟩
  · decide +kernel

/-- With a threshold of thirty days the report on that source says that no debt is declared,
although nothing went wrong and twenty-five days are declared. -/
theorem hidden_debt_is_denied :
    (∃ result,
      oneDebtTree.analyze ⟨0, ""⟩ ⟨"a.cs"⟩ none { minDays? := some 30 } .empty = .ok result ∧
      Text.ClosesSaying "No manual technical debt declared." result.stdout) ∧
    oneDebtTree.collect [] ⟨"a.cs"⟩ = .ok [⟨"a.cs"⟩] ∧ ¬ oneDebtTree.Faulty .empty ⟨"a.cs"⟩ ∧
    (oneDebtTree.debtsIn .empty [⟨"a.cs"⟩]).map (·.days) = [25] := by
  obtain ⟨hformat, result, hrun⟩ := exists_analyze_oneDebtTree (some 30)
  obtain ⟨globs, files, hglobs, hfiles, hwrites⟩ := exists_writes_of_analyzeUnder hformat hrun
  rw [settings_oneDebtTree] at hglobs
  cases hglobs
  cases collect_oneDebtTree.symm.trans hfiles
  refine ⟨⟨result, hrun, ?_⟩, collect_oneDebtTree, sound_oneDebtTree⟩
  have hsources : ∀ file ∈ [(⟨"a.cs"⟩ : Path)], file.isSupported = true := by decide
  have hstdout : result.stdout = _ := hwrites
  rw [hstdout, TextReport.closesSaying_render_iff, Report.diagnostics_shown, Report.errors_shown,
    Analysis.filter_diagnostics_eq_nil_iff rfl _ hsources,
    Analysis.errors_ofOutcomes_eq_nil_iff rfl _ hsources]
  constructor
  · intro debt hdebt cost hcost
    have hdays := List.mem_map_of_mem (f := (·.days)) hdebt
    rw [sound_oneDebtTree.2, List.mem_singleton] at hdays
    rw [hdays] at hcost
    revert cost
    decide
  · simpa using sound_oneDebtTree.1

/-- Without a threshold the report on that source does not say so. -/
theorem shown_debt_is_not_denied :
    ∃ result, oneDebtTree.analyze ⟨0, ""⟩ ⟨"a.cs"⟩ none {} .empty = .ok result ∧
      ¬ Text.ClosesSaying "No manual technical debt declared." result.stdout := by
  obtain ⟨hformat, result, hrun⟩ := exists_analyze_oneDebtTree none
  obtain ⟨globs, files, text, hglobs, hfiles, hwrites, -, hzero⟩ :=
    closing_line_iff_nothing_left oneDebtTree ⟨0, ""⟩ ⟨"a.cs"⟩ none {} .empty result hformat hrun
  rw [settings_oneDebtTree] at hglobs hzero
  cases hglobs
  cases collect_oneDebtTree.symm.trans hfiles
  refine ⟨result, hrun, ?_⟩
  have hstdout : result.stdout = text := hwrites
  rw [hstdout, hzero (by decide)]
  rintro ⟨-, hdebts⟩
  have hdays := sound_oneDebtTree.2
  obtain ⟨debt, hdebt, h25⟩ := List.map_eq_singleton_iff.1 hdays
  rw [hdebts debt (by simp [hdebt])] at h25
  cases h25

end FileTree

end DeclaredDebt
