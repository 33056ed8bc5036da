import DeclaredDebt.Proofs.TreeChange
import DeclaredDebt.Proofs.WrittenReport

/-!
# Settings come from one file

An analysis is done under the settings of one file: the one in TOML if it can be read as settings,
otherwise the one in JSON if it can, and otherwise none. A value of the command line comes before
the one of that file, and a default behind both. So where the file in TOML can be read, the one in
JSON is of no account: a run ends in the same way whether it is there or not and whatever it holds.
This holds unless the run comes upon that file as something else than settings: as a source, an
ignore file, the file in TOML, or part of a path that it is given.

## Main definitions

* `FileTree.ChosenFor`: the settings that are chosen for a path.
* `Effective`: the value that a setting has in the end.
* `Plan.Follows`: a plan with the values that the settings have in the end.
* `FileTree.carryOut`: an analysis by a plan.
* `RunResult.SameBut`: two results that differ at one place of their trees at most.
-/

namespace DeclaredDebt

namespace FileTree

/-! ## The settings that are chosen -/

/-- A file can be read as text, and its text as settings. -/
def Deserializes (t : FileTree) (file : Path) (ofText? : List Char → Option Settings)
    (s : Settings) : Prop :=
  ∃ text, t.readText file = .ok text ∧ ofText? text = some s

/-- The settings file in TOML for a path holds some settings. -/
def TomlHolds (t : FileTree) (path : Path) : Settings → Prop :=
  t.Deserializes ((t.settingsDirectory path).join Settings.tomlName) Settings.ofToml?

/-- The settings file in JSON for a path holds some settings. -/
def JsonHolds (t : FileTree) (path : Path) : Settings → Prop :=
  t.Deserializes ((t.settingsDirectory path).join Settings.jsonName) Settings.ofJson?

/-- The settings that are chosen for a path. -/
inductive ChosenFor (t : FileTree) (path : Path) : Settings → Prop
  | toml {s : Settings} (h : t.TomlHolds path s) : ChosenFor t path s
  | json {s : Settings} (htoml : ∀ s', ¬ t.TomlHolds path s') (h : t.JsonHolds path s) :
    ChosenFor t path s
  | neither (htoml : ∀ s', ¬ t.TomlHolds path s') (hjson : ∀ s', ¬ t.JsonHolds path s') :
    ChosenFor t path {}

variable {t u : FileTree} {path : Path} {s : Settings}

theorem deserializes_iff {file : Path} {ofText? : List Char → Option Settings} :
    t.Deserializes file ofText? s ↔ t.settingsIn? file ofText? = some s := by
  unfold settingsIn? Deserializes
  cases t.readText file with
  | error fault => simp
  | ok text => simp

theorem forall_not_deserializes_iff {file : Path} {ofText? : List Char → Option Settings} :
    (∀ s, ¬ t.Deserializes file ofText? s) ↔ t.settingsIn? file ofText? = none := by
  simp only [deserializes_iff, Option.eq_none_iff_forall_ne_some, ne_eq]

/-- The settings for a path, from what its two settings files hold. -/
theorem settings_eq_match (t : FileTree) (path : Path) :
    t.settings path =
      match t.settingsIn? ((t.settingsDirectory path).join Settings.tomlName) Settings.ofToml?,
        t.settingsIn? ((t.settingsDirectory path).join Settings.jsonName) Settings.ofJson? with
      | some s, _ => s
      | none, some s => s
      | none, none => {} := by
  unfold settings
  dsimp only
  generalize t.settingsIn? _ Settings.ofToml? = toml?
  generalize t.settingsIn? _ Settings.ofJson? = json?
  cases toml? <;> cases json? <;> rfl

/-- **The settings for a path are the ones that are chosen.** -/
theorem chosenFor_iff : t.ChosenFor path s ↔ t.settings path = s := by
  rw [settings_eq_match]
  constructor
  · rintro (htoml | ⟨htoml, hjson⟩ | ⟨htoml, hjson⟩)
    · rw [deserializes_iff.1 htoml]
    · rw [forall_not_deserializes_iff.1 htoml, deserializes_iff.1 hjson]
    · rw [forall_not_deserializes_iff.1 htoml, forall_not_deserializes_iff.1 hjson]
  · rintro rfl
    split
    · next s _ htoml => exact .toml (deserializes_iff.2 htoml)
    · next s htoml hjson =>
      exact .json (forall_not_deserializes_iff.2 htoml) (deserializes_iff.2 hjson)
    · next htoml hjson =>
      exact .neither (forall_not_deserializes_iff.2 htoml) (forall_not_deserializes_iff.2 hjson)

end FileTree

/-! ## The values of settings -/

/-- The value of a setting in the end: the one given, or else the one set, or else a fallback. -/
inductive Effective {α : Type} (given? set? : Option α) (fallback : α) : α → Prop
  | given {v : α} (h : given? = some v) : Effective given? set? fallback v
  | set {v : α} (hgiven : given? = none) (h : set? = some v) : Effective given? set? fallback v
  | neither (hgiven : given? = none) (hset : set? = none) : Effective given? set? fallback fallback

theorem effective_iff {α : Type} {given? set? : Option α} {fallback v : α} :
    Effective given? set? fallback v ↔ (given?.or set?).getD fallback = v := by
  constructor
  · rintro (h | ⟨hgiven, h⟩ | ⟨hgiven, hset⟩)
    · simp [h]
    · simp [hgiven, h]
    · simp [hgiven, hset]
  · rintro rfl
    cases given? with
    | some v => exact .given rfl
    | none =>
      cases set? with
      | some v => exact .set rfl rfl
      | none => exact .neither rfl rfl

/-- A setting that may be left without a value. -/
theorem effective_some_iff {α : Type} {given? set? v? : Option α} :
    Effective (given?.map some) (set?.map some) none v? ↔ given?.or set? = v? := by
  rw [effective_iff]
  cases given? <;> cases set? <;> simp

/-- The name of the format that an analysis has in the end. -/
def AnalyzeOptions.FormatNamed (o : AnalyzeOptions) (s : Settings) : String → Prop :=
  Effective (o.format?.map Format.name) s.format? Format.text.name

/-- A plan has the values that the settings have in the end. -/
structure Plan.Follows (plan : Plan) (workers? : Option ℕ) (o : AnalyzeOptions) (s : Settings) :
    Prop where
  format : ∃ name, o.FormatNamed s name ∧ Format.ofName name = .ok plan.format
  workers : Effective workers? s.workers? 0 plan.workers
  failOn : Effective (o.failOn?.map some) (s.failOn?.map some) none plan.failOn?
  minDays : Effective (o.minDays?.map some) (s.minDays?.map some) none plan.minDays?
  exclude : plan.exclude = s.exclude
  severity : plan.severity? = s.severity?

section Plan

variable {workers? : Option ℕ} {o : AnalyzeOptions} {s : Settings}

theorem Format.ofName_name (f : Format) : Format.ofName f.name = .ok f := by
  cases f <;> cbv

/-- The format of a report is the one that its name stands for. -/
theorem AnalyzeOptions.formatUnder_of_formatNamed {name : String} (h : o.FormatNamed s name) :
    o.formatUnder s = Format.ofName name := by
  rw [FormatNamed, effective_iff] at h
  rw [← h, formatUnder]
  cases o.format? with
  | none => simp
  | some format => simp [Format.ofName_name]

theorem AnalyzeOptions.exists_formatNamed (o : AnalyzeOptions) (s : Settings) :
    ∃ name, o.FormatNamed s name :=
  ⟨_, effective_iff.2 rfl⟩

/-- **There is one plan that follows the settings**, and it is the one that is made. -/
theorem Plan.follows_iff {plan : Plan} :
    plan.Follows workers? o s ↔ Plan.ofOptions workers? o s = .ok plan := by
  constructor
  · rintro ⟨⟨name, hname, hformat⟩, hworkers, hfailOn, hminDays, hexclude, hseverity⟩
    rw [← AnalyzeOptions.formatUnder_of_formatNamed hname] at hformat
    rw [effective_iff] at hworkers
    rw [effective_some_iff] at hfailOn hminDays
    rw [Plan.ofOptions_of_formatUnder hformat, hworkers, hfailOn, hminDays, ← hexclude, ← hseverity]
  · intro h
    obtain ⟨format, hformat⟩ := Plan.exists_ofOptions_iff.1 ⟨plan, h⟩
    cases h.symm.trans (Plan.ofOptions_of_formatUnder hformat)
    obtain ⟨name, hname⟩ := o.exists_formatNamed s
    rw [AnalyzeOptions.formatUnder_of_formatNamed hname] at hformat
    exact ⟨⟨name, hname, hformat⟩, effective_iff.2 rfl, effective_some_iff.2 rfl,
      effective_some_iff.2 rfl, rfl, rfl⟩

/-- Only a format without a known name leaves an analysis without a plan. -/
theorem Plan.ofOptions_cases (workers? : Option ℕ) (o : AnalyzeOptions) (s : Settings) :
    (∃ name e, o.FormatNamed s name ∧ Format.ofName name = .error e ∧
      Plan.ofOptions workers? o s = .error e) ∨
    ∃ plan, Plan.ofOptions workers? o s = .ok plan := by
  obtain ⟨name, hname⟩ := o.exists_formatNamed s
  have hformat := AnalyzeOptions.formatUnder_of_formatNamed hname
  cases hofName : Format.ofName name with
  | error e =>
    refine .inl ⟨name, e, hname, hofName, ?_⟩
    simp only [Plan.ofOptions, hformat, hofName, Except.map]
  | ok format => exact .inr ⟨_, Plan.ofOptions_of_formatUnder (hformat.trans hofName)⟩

end Plan

/-! ## An analysis by a plan -/

/-- Does an analysis by a plan. -/
def FileTree.carryOut (t : FileTree) (clock : Clock) (plan : Plan) (path : Path)
    (output? : Option Path) (recovery : Recovery) : Except CommandError RunResult :=
  match t.reportFor clock plan path recovery with
  | .error e => .error e
  | .ok r =>
    let shown := plan.minDays?.elim r r.retainMinDays
    t.deliver (plan.format.render clock.endTime shown) output?
      (.ofReport shown r.summary.totalDays plan.failOn?)

theorem FileTree.analyzeUnder_eq_carryOut {t : FileTree} {s : Settings} {clock : Clock}
    {path : Path} {workers? : Option ℕ} {o : AnalyzeOptions} {recovery : Recovery} {plan : Plan}
    (h : Plan.ofOptions workers? o s = .ok plan) :
    t.analyzeUnder s clock path workers? o recovery =
      t.carryOut clock plan path o.output? recovery := by
  cases hreport : t.reportFor clock plan path recovery with
  | error e => simp only [analyzeUnder, carryOut, h, hreport]
  | ok r => simp only [analyzeUnder, carryOut, h, hreport]

theorem FileTree.analyzeUnder_eq_error {t : FileTree} {s : Settings} {clock : Clock} {path : Path}
    {workers? : Option ℕ} {o : AnalyzeOptions} {recovery : Recovery} {e : UnknownFormat}
    (h : Plan.ofOptions workers? o s = .error e) :
    t.analyzeUnder s clock path workers? o recovery = .error (.unknownFormat e) := by
  simp only [analyzeUnder, h]

/-! ## Results that differ at one place -/

namespace FileTree

/-- A file in a directory changes the tree at its place only. -/
theorem sameBut_setFile {t : FileTree} {directory : List String}
    (hdirectory : t.entry? directory = some .directory) (name : String) (content : List UInt8) :
    SameBut (directory ++ [name]) t (t.setFile (directory ++ [name]) content) := by
  refine ⟨by simp, by simp, ?_⟩
  intro p hp
  rw [entry?_setFile_of_ne t hp]
  split
  · next hstarts =>
    have habove : p <+: directory := (List.prefix_concat_iff.1 hstarts).resolve_left hp
    have hthere : t.entry? directory ≠ none := by simp [hdirectory]
    obtain ⟨e, he⟩ := Option.ne_none_iff_exists'.1 (entry?_ne_none_of_isPrefix hthere habove)
    simp [he]
  · simp

/-- The same file in two trees that differ at one place leaves them so. -/
theorem SameBut.setFile {site : List String} {t u : FileTree} (h : SameBut site t u)
    (other : List String) (content : List UInt8) :
    SameBut site (t.setFile other content) (u.setFile other content) := by
  refine ⟨by simpa using h.top, by simpa using h.workingDirectory, ?_⟩
  intro p hp
  by_cases hother : p = other
  · rw [hother, entry?_setFile_self, entry?_setFile_self]
  · rw [entry?_setFile_of_ne u hother, entry?_setFile_of_ne t hother, h.entry p hp]

theorem write_eq_ok {t : FileTree} {p : Path} {place : List String}
    (hplace : t.placeToWrite p = .ok place) (hentry : t.entry? place ≠ some .directory)
    (content : List UInt8) : t.write p content = .ok (t.setFile place content) := by
  simp only [write, hplace, bind, Except.bind]

end FileTree

namespace RunResult

/-- Two results that differ at one place of their trees at most. -/
structure SameBut (site : List String) (r r' : RunResult) : Prop where
  exitCode : r'.exitCode = r.exitCode
  stdout : r'.stdout = r.stdout
  stderr : r'.stderr = r.stderr
  tree : FileTree.SameBut site r.tree r'.tree

/-- A command comes to the same on two trees: it fails in the same way, or its results differ at one
place of their trees at most and it has written the same report. -/
inductive Alike (site : List String) (t u : FileTree) (output? : Option Path) :
    Except CommandError RunResult → Except CommandError RunResult → Prop
  | error (e : CommandError) : Alike site t u output? (.error e) (.error e)
  | ok {r r' : RunResult} (h : SameBut site r r')
    (hwrites : ∀ text, u.Writes output? r' text ↔ t.Writes output? r text) :
    Alike site t u output? (.ok r) (.ok r')

theorem Alike.exists_writes_iff {site : List String} {t u : FileTree} {output? : Option Path}
    {result result' : Except CommandError RunResult} (h : Alike site t u output? result result')
    (text : String) :
    (∃ r, result' = .ok r ∧ u.Writes output? r text) ↔
      ∃ r, result = .ok r ∧ t.Writes output? r text := by
  cases h with
  | error e => simp
  | ok h hwrites => simpa using hwrites text

end RunResult

namespace FileTree.Apart

variable {t u : FileTree} {site : List String} (h : Apart site t u)

include h

section Overlooked

variable {s : Settings} {path : Path} {output? : Option Path}
  (ht : t.Overlooks site s path output?) (hu : u.Overlooks site s path output?)

include ht hu

/-- A file is written to the same place in both trees, or to none for the same reason. -/
theorem write_cases {output : Path} (houtput : output? = some output) (content : List UInt8) :
    (∃ fault, t.write output content = .error fault ∧ u.write output content = .error fault) ∨
      ∃ place, t.placeToWrite output = .ok place ∧ u.placeToWrite output = .ok place ∧
        t.write output content = .ok (t.setFile place content) ∧
        u.write output content = .ok (u.setFile place content) := by
  by_cases hover : t.WritesOver site output
  · -- The file at the place is replaced in both trees.
    obtain ⟨hplace, hentry⟩ := ht.output output houtput hover
    obtain ⟨hplace', hentry'⟩ := hu.output output houtput (h.writesOver_iff.2 hover)
    exact .inr ⟨site, hplace, hplace', write_eq_ok hplace hentry _, write_eq_ok hplace' hentry' _⟩
  · obtain ⟨hplaces, hne⟩ := h.placeToWrite_eq hover
    cases hplace : t.placeToWrite output with
    | error fault =>
      refine .inl ⟨fault, ?_, ?_⟩
      · simp only [write, hplace, bind, Except.bind]
      · simp only [write, hplaces, hplace, bind, Except.bind]
    | ok place =>
      have hplace' : u.placeToWrite output = .ok place := hplaces.trans hplace
      have hsame := h.same.entry place (hne place hplace)
      by_cases hentry : t.entry? place = some .directory
      · refine .inl ⟨.isDirectory, ?_, ?_⟩
        · simp only [write, hplace, bind, Except.bind, hentry]
        · simp only [write, hplace', bind, Except.bind, hsame, hentry]
      · exact .inr ⟨place, rfl, hplace', write_eq_ok hplace hentry _,
          write_eq_ok hplace' (hsame ▸ hentry) _⟩

theorem alike_deliver (text : String) (ending : Ending) :
    RunResult.Alike site t u output? (t.deliver text output? ending)
      (u.deliver text output? ending) := by
  cases output? with
  | none => exact .ok ⟨rfl, rfl, rfl, h.same⟩ fun _ => Iff.rfl
  | some output =>
    unfold deliver
    obtain ⟨fault, hwrite, hwrite'⟩ | ⟨place, hplace, hplace', hwrite, hwrite'⟩ :=
      h.write_cases ht hu rfl text.toUTF8.data.toList
    · simp only [hwrite, hwrite']
      exact .error _
    · simp only [hwrite, hwrite']
      refine .ok ⟨rfl, rfl, rfl, h.same.setFile place _⟩ ?_
      intro other
      simp only [Writes, hplace, hplace', Except.ok.injEq, exists_eq_left', entry?_setFile_self]

end Overlooked

section Overlooked

variable {s : Settings} {path : Path} {o : AnalyzeOptions}
  (hjson : site.getLast? = some Settings.jsonName)
  (ht : t.Overlooks site s path o.output?) (hu : u.Overlooks site s path o.output?)

include hjson ht hu

/-- **An analysis by a plan comes to the same in both trees.** -/
theorem alike_carryOut {plan : Plan} (hplan : plan.exclude = s.exclude) (clock : Clock)
    (recovery : Recovery) :
    RunResult.Alike site t u o.output? (t.carryOut clock plan path o.output? recovery)
      (u.carryOut clock plan path o.output? recovery) := by
  have hreport : u.reportFor clock plan path recovery = t.reportFor clock plan path recovery := by
    unfold reportFor
    rw [hplan]
    cases hglobs : Exclude.parse s.exclude with
    | error e => rfl
    | ok globs => simp only [h.ofPath_eq hjson hglobs ht hu]
  unfold carryOut
  rw [hreport]
  cases t.reportFor clock plan path recovery with
  | error e => exact .error e
  | ok r => exact h.alike_deliver ht hu _ _

/-- **An analysis under the same settings comes to the same in both trees.** -/
theorem alike_analyzeUnder (clock : Clock) (workers? : Option ℕ) (recovery : Recovery) :
    RunResult.Alike site t u o.output? (t.analyzeUnder s clock path workers? o recovery)
      (u.analyzeUnder s clock path workers? o recovery) := by
  obtain ⟨name, e, -, -, hplan⟩ | ⟨plan, hplan⟩ := Plan.ofOptions_cases workers? o s
  · rw [analyzeUnder_eq_error hplan, analyzeUnder_eq_error hplan]
    exact .error _
  · rw [analyzeUnder_eq_carryOut hplan, analyzeUnder_eq_carryOut hplan]
    exact h.alike_carryOut hjson ht hu (Plan.of_ofOptions hplan).1 clock recovery

end Overlooked

/-- What the settings file in TOML for a path holds, it holds in the other tree too. -/
theorem tomlHolds {s : Settings} {path : Path} {output? : Option Path}
    (ht : t.Overlooks site s path output?) (hu : u.Overlooks site s path output?)
    (htoml : t.TomlHolds path s) : u.TomlHolds path s := by
  have hsame : u.settingsDirectory path = t.settingsDirectory path := by
    rw [settingsDirectory, settingsDirectory, h.isFile_eq ht.path hu.path]
  obtain ⟨text, hread, htext⟩ := htoml
  refine ⟨text, ?_, htext⟩
  cases hplace : t.locate ((t.settingsDirectory path).join Settings.tomlName) with
  | error fault => simp [readText, read, hplace, bind, Except.bind] at hread
  | ok place => rw [hsame, h.readText_eq ht.settings hplace, hread]

end FileTree.Apart

/-- Alike commands make runs that differ at one place of their trees at most. -/
theorem Program.sameBut_run {site : List String} {t u : FileTree} {clock : Clock}
    {recovery : Recovery} {output? : Option Path} {arguments : List String} {i : Invocation}
    (hparse : CommandLine.parse arguments = .ok i) (htrees : FileTree.SameBut site t u)
    (h : RunResult.Alike site t u output? (i.run clock t recovery) (i.run clock u recovery)) :
    (Program.run clock t arguments recovery).SameBut site
      (Program.run clock u arguments recovery) := by
  simp only [Program.run, hparse]
  generalize i.run clock t recovery = result at h
  generalize i.run clock u recovery = result' at h
  cases h with
  | error e => exact ⟨rfl, rfl, rfl, htrees⟩
  | ok hsame => exact hsame

/-! ## One file decides -/

/-- **Settings come from one file.** For each analysis that a command line asks for, one record of
settings is chosen: that of the file in TOML if it can be read, otherwise that of the file in JSON
if it can, otherwise the empty one. The analysis is carried out by the one plan whose values come
from the command line, or else from that record, or else are the defaults; only a format that goes
by no known name leaves it without a plan. Where the file in TOML can be read, two trees that differ
in a file in JSON only give the same exit code, the same texts and the same written report, and
leave trees that differ there only, if the analysis does not come upon that file otherwise. -/
theorem settings_come_from_one_file (t : FileTree) (clock : Clock) (arguments : List String)
    (i : Invocation) (o : AnalyzeOptions) (recovery : Recovery)
    (hparse : CommandLine.parse arguments = .ok i) (hasks : i.analysis? = some o) :
    (∃! s, t.ChosenFor i.path s) ∧
    (∀ s, t.ChosenFor i.path s →
      (∃ name e, o.FormatNamed s name ∧ Format.ofName name = .error e ∧
        i.run clock t recovery = .error (.unknownFormat e)) ∨
      ∃! plan : Plan, plan.Follows i.workers? o s ∧
        i.run clock t recovery = t.carryOut clock plan i.path o.output? recovery) ∧
    ∀ (u : FileTree) (directory : List String) (s : Settings),
      let site := directory ++ [Settings.jsonName]
      FileTree.Apart site t u → t.TomlHolds i.path s →
      t.Overlooks site s i.path o.output? → u.Overlooks site s i.path o.output? →
      u.ChosenFor i.path s ∧
      (Program.run clock t arguments recovery).SameBut site
        (Program.run clock u arguments recovery) ∧
      ∀ text,
        (∃ r, i.run clock u recovery = .ok r ∧ u.Writes o.output? r text) ↔
          ∃ r, i.run clock t recovery = .ok r ∧ t.Writes o.output? r text := by
  have hrun : ∀ (v : FileTree) (s : Settings), v.ChosenFor i.path s →
      i.run clock v recovery = v.analyzeUnder s clock i.path i.workers? o recovery := by
    intro v s hchosen
    rw [Invocation.run_eq_analyze hasks, FileTree.analyze, FileTree.chosenFor_iff.1 hchosen]
  refine ⟨?_, ?_, ?_⟩
  · refine ⟨t.settings i.path, FileTree.chosenFor_iff.2 rfl, ?_⟩
    intro s hchosen
    exact (FileTree.chosenFor_iff.1 hchosen).symm
  · intro s hchosen
    obtain ⟨name, e, hname, hofName, hplan⟩ | ⟨plan, hplan⟩ := Plan.ofOptions_cases i.workers? o s
    · refine .inl ⟨name, e, hname, hofName, ?_⟩
      rw [hrun t s hchosen, FileTree.analyzeUnder_eq_error hplan]
    · refine .inr ⟨plan, ⟨Plan.follows_iff.2 hplan, ?_⟩, ?_⟩
      · rw [hrun t s hchosen, FileTree.analyzeUnder_eq_carryOut hplan]
      · rintro other ⟨hfollows, -⟩
        exact Except.ok.inj ((Plan.follows_iff.1 hfollows).symm.trans hplan)
  · intro u directory s site hapart htoml ht hu
    have hchosen : u.ChosenFor i.path s := .toml (hapart.tomlHolds ht hu htoml)
    have halike : RunResult.Alike site t u o.output? (i.run clock t recovery)
        (i.run clock u recovery) := by
      rw [hrun t s (.toml htoml), hrun u s hchosen]
      exact hapart.alike_analyzeUnder (by simp [site]) ht hu clock i.workers? recovery
    exact ⟨hchosen, Program.sameBut_run hparse hapart.same halike, halike.exists_writes_iff⟩

namespace FileTree

/-- Whatever is put into a file that nothing stands below, the trees differ there only. -/
theorem apart_setFile {t : FileTree} (directory : List String) (name : String)
    (hdirectory : t.entry? directory = some .directory)
    (hbare : ∀ e ∈ t.entries, directory ++ [name] <+: e.1 → e.1 = directory ++ [name])
    (houtside : t.workingDirectory ≠ directory ++ [name]) (content : List UInt8) :
    Apart (directory ++ [name]) t (t.setFile (directory ++ [name]) content) := by
  refine ⟨sameBut_setFile hdirectory _ _, by simp, houtside, ?_⟩
  intro below rest
  by_contra hsome
  obtain hnil | ⟨e, he, hstarts⟩ := exists_mem_entries hsome
  · simp at hnil
  · have hplace := hbare e he ((List.prefix_append _ _).trans hstarts)
    rw [hplace] at hstarts
    have hlength := hstarts.length_le
    simp at hlength

/-- A tree with sources, settings in TOML and maybe in JSON, and links. One of the links leads to
the file in JSON but is no source, and one is a source but leads to another file of that name. -/
def settledTree (json? : Option (List UInt8)) : FileTree where
  entries := [
    ([".gitignore"], .file "out/\n".toUTF8.toList),
    (["a.cs"], .file (String.ofList twoTierSource).toUTF8.toList),
    (["b.cs"], .link "a.cs"),
    (["manual-debt.toml"], .file "[defaults]\nmin_days = 30\n".toUTF8.toList),
    (["notes.txt"], .link ".manualdebtrc.json"),
    (["other", ".manualdebtrc.json"], .file "class B;".toUTF8.toList),
    (["out"], .directory),
    (["x.cs"], .link "other/.manualdebtrc.json")] ++
      (json?.map fun content => ([Settings.jsonName], Entry.file content)).toList

/-- Settings in JSON with another threshold than those in TOML. -/
def settledJson : List UInt8 := "\x7b\"defaults\":\x7b\"min_days\":1\x7d\x7d".toUTF8.toList

theorem apart_settledTree (content : List UInt8) :
    Apart [Settings.jsonName] (settledTree none) (settledTree (some content)) :=
  apart_setFile [] Settings.jsonName (by decide) (by decide) (by decide) content

set_option maxRecDepth 100000 in
theorem tomlHolds_settledTree : (settledTree none).TomlHolds ⟨"."⟩ { minDays? := some 30 } := by
  rw [TomlHolds, deserializes_iff]
  decide +kernel

set_option maxRecDepth 100000 in
theorem jsonHolds_settledTree :
    (settledTree (some settledJson)).JsonHolds ⟨"."⟩ { minDays? := some 1 } := by
  rw [JsonHolds, deserializes_iff]
  decide +kernel

/-- What the file in JSON may hold here: nothing, settings, or what is not even text. -/
def settledCases : List (Option (List UInt8)) := [none, some settledJson, some [255]]

theorem collect_settledTree : ∀ json? ∈ settledCases,
    (settledTree json?).collect [] ⟨"."⟩ = .ok [⟨"./a.cs"⟩, ⟨"./b.cs"⟩, ⟨"./x.cs"⟩] := by
  have hfound : ∀ json? ∈ settledCases, (settledTree json?).locate ⟨"."⟩ = .ok [] ∧
      FileTree.entry? (settledTree json?) [] = some .directory ∧
      (((settledTree json?).walk []).filter ((settledTree json?).isSource [] ⟨"."⟩)).map
        (pathBelow ⟨"."⟩) = [⟨"./a.cs"⟩, ⟨"./b.cs"⟩, ⟨"./x.cs"⟩] := by decide +kernel
  intro json? hcase
  obtain ⟨hplace, hentry, hsources⟩ := hfound json? hcase
  simp only [collect, hplace, hentry, collectBelow, sourcesAmong, hsources]
  rw [List.mergeSort_of_pairwise (by decide)]

theorem name_of_link_settledTree {json? : Option (List UInt8)} {place : List String}
    {name target : String}
    (h : FileTree.entry? (settledTree json?) (place ++ [name]) = some (.link target)) :
    name ∈ ["b.cs", "notes.txt", "x.cs"] := by
  have hlisted := mem_entries h (by simp)
  simp only [settledTree, List.mem_append, List.mem_cons, Option.mem_toList,
    Option.map_eq_some_iff, Prod.mk.injEq, reduceCtorEq, and_false, false_or, exists_false,
    or_false, List.not_mem_nil, List.append_eq_singleton_iff, List.cons.injEq] at hlisted
  grind

/-- An analysis that writes to another file of the same name does not come upon the file in JSON. -/
theorem overlooks_settledTree {json? : Option (List UInt8)} (hcase : json? ∈ settledCases) :
    (settledTree json?).Overlooks [Settings.jsonName] { minDays? := some 30 } ⟨"."⟩
      (some ⟨"out/.manualdebtrc.json"⟩) := by
  have hsite : ∀ e, FileTree.entry? (settledTree json?) [Settings.jsonName] = some e →
      ∃ content, e = .file content := by
    have hentries : ∀ json? ∈ settledCases,
        FileTree.entry? (settledTree json?) [Settings.jsonName] = json?.map .file := by
      decide +kernel
    intro e he
    rw [hentries json? hcase] at he
    obtain ⟨content, -, rfl⟩ := Option.map_eq_some_iff.1 he
    exact ⟨content, rfl⟩
  obtain ⟨other, hapart⟩ : ∃ other, Apart [Settings.jsonName] (settledTree json?) other := by
    cases json? with
    | none => exact ⟨_, apart_settledTree []⟩
    | some content => exact ⟨_, (apart_settledTree content).symm⟩
  have hlocate : ∀ json? ∈ settledCases, (settledTree json?).settingsDirectory ⟨"."⟩ = ⟨"."⟩ ∧
      ∀ p ∈ ([⟨"."⟩, ⟨"./manual-debt.toml"⟩, ⟨"./a.cs"⟩, ⟨"./b.cs"⟩, ⟨"./x.cs"⟩] : List Path),
        (settledTree json?).locate p ≠ .ok [Settings.jsonName] := by decide +kernel
  obtain ⟨hdirectory, hpaths⟩ := hlocate json? hcase
  refine ⟨?_, ?_, ?_, ?_, ?_⟩
  · rw [hapart.meets_iff_locate hsite]
    exact hpaths _ (by simp)
  · rw [hapart.meets_iff_locate hsite, hdirectory]
    exact hpaths _ (by decide)
  · rintro directory - names hnames ⟨-, hover⟩
    have hnamed : ∀ names ∈ ignoreFiles, ∀ name ∈ names,
        isName name = true ∧ [Settings.jsonName].getLast? ≠ some name := by decide
    refine not_leadsOver_of_names ?_ (hnamed names hnames) hover
    have hunlinked : ∀ names ∈ ignoreFiles, ∀ name ∈ names,
        name ∉ ["b.cs", "notes.txt", "x.cs"] := by decide
    intro place name hname target hentry
    exact hunlinked names hnames name hname (name_of_link_settledTree hentry)
  · rintro globs files ⟨⟩ hfiles
    cases (collect_settledTree json? hcase).symm.trans hfiles
    intro file hfile
    rw [hapart.meets_iff_locate hsite]
    exact hpaths file (List.mem_cons_of_mem _ (List.mem_cons_of_mem _ hfile))
  · rintro output ⟨⟩ hover
    have hplaces : ∀ json? ∈ settledCases,
        (settledTree json?).placeToWrite ⟨"out/.manualdebtrc.json"⟩ =
          .ok ["out", Settings.jsonName] := by decide +kernel
    exact absurd (eq_of_writesOver hsite hover (hplaces json? hcase)) (by decide)

/-- The file in TOML counts in that tree, also beside a file in JSON that can be read as other
settings. A run whose report goes to another file of that name ends in the same way, with the same
report, whether there is no file in JSON, settings in it, or what is not even text. -/
theorem settledTree_goes_by_toml :
    (settledTree (some settledJson)).JsonHolds ⟨"."⟩ { minDays? := some 1 } ∧
    ∀ content ∈ [settledJson, [255]],
      (settledTree (some content)).ChosenFor ⟨"."⟩ { minDays? := some 30 } ∧
      (Program.run ⟨0, ""⟩ (settledTree none)
        ["analyze", "-o", "out/.manualdebtrc.json"]).SameBut [Settings.jsonName]
          (Program.run ⟨0, ""⟩ (settledTree (some content))
            ["analyze", "-o", "out/.manualdebtrc.json"]) := by
  have hparse : CommandLine.parse ["analyze", "-o", "out/.manualdebtrc.json"] =
      .ok ⟨⟨"."⟩, .warn, none,
        some (.analyze { output? := some ⟨"out/.manualdebtrc.json"⟩ })⟩ := by rfl
  refine ⟨jsonHolds_settledTree, ?_⟩
  intro content hcontent
  have hcase : some content ∈ settledCases := by
    simpa [settledCases] using hcontent
  obtain ⟨-, -, htwo⟩ :=
    settings_come_from_one_file (settledTree none) ⟨0, ""⟩ _ _ _ .empty hparse rfl
  obtain ⟨hchosen, hsame, -⟩ := htwo _ [] _ (apart_settledTree content) tomlHolds_settledTree
    (overlooks_settledTree (by simp [settledCases])) (overlooks_settledTree hcase)
  exact ⟨hchosen, hsame⟩

/-- A tree whose only source is a link to its settings file in JSON. -/
def linkedTree (content : List UInt8) : FileTree where
  entries := [(["manual-debt.toml"], .file []), (["a.cs"], .link ".manualdebtrc.json"),
    ([".manualdebtrc.json"], .file content)]

theorem settings_linkedTree : (linkedTree []).TomlHolds ⟨"."⟩ {} ∧
    (linkedTree [255]).TomlHolds ⟨"."⟩ {} := by
  simp only [TomlHolds, deserializes_iff]
  exact ⟨by decide +kernel, by decide +kernel⟩

theorem collect_linkedTree : (linkedTree []).collect [] ⟨"."⟩ = .ok [⟨"./a.cs"⟩] ∧
    (linkedTree [255]).collect [] ⟨"."⟩ = .ok [⟨"./a.cs"⟩] := by
  have hfound : ∀ content ∈ [[], [255]], (linkedTree content).locate ⟨"."⟩ = .ok [] ∧
      FileTree.entry? (linkedTree content) [] = some .directory ∧
      (((linkedTree content).walk []).filter ((linkedTree content).isSource [] ⟨"."⟩)).map
        (pathBelow ⟨"."⟩) = [⟨"./a.cs"⟩] := by decide
  have hcollect : ∀ content ∈ [[], [255]],
      (linkedTree content).collect [] ⟨"."⟩ = .ok [⟨"./a.cs"⟩] := by
    intro content hcontent
    obtain ⟨hplace, hentry, hsources⟩ := hfound content hcontent
    simp only [collect, hplace, hentry, collectBelow, sourcesAmong, hsources,
      List.mergeSort_singleton]
  exact ⟨hcollect [] (by simp), hcollect [255] (by simp)⟩

/-- The code of a run where nothing is set and one source is collected. -/
theorem means_run_of_collect {t : FileTree} (htoml : t.TomlHolds ⟨"."⟩ {}) {file : Path}
    (hcollect : t.collect [] ⟨"."⟩ = .ok [file]) :
    t.Means .empty [file] none (Program.run ⟨0, ""⟩ t ["analyze"]).exitCode := by
  have hparse : CommandLine.parse ["analyze"] = .ok ⟨⟨"."⟩, .warn, none, some (.analyze {})⟩ := by
    rfl
  have hformat : AnalyzeOptions.formatUnder {} {} = .ok .text := by cbv
  have hsettings : t.settings ⟨"."⟩ = {} := chosenFor_iff.1 (.toml htoml)
  obtain ⟨result, hresult⟩ :
      ∃ result, t.analyzeUnder {} ⟨0, ""⟩ ⟨"."⟩ none {} .empty = .ok result :=
    exists_analyzeUnder_iff.2 ⟨⟨.text, hformat⟩, ⟨[], rfl⟩, exists_collect_iff.1 ⟨_, hcollect⟩,
      by simp⟩
  obtain ⟨globs, files, hglobs, hfiles, hmeans⟩ := means_of_analyzeUnder hresult
  cases hglobs
  cases hcollect.symm.trans hfiles
  rw [← hsettings] at hresult
  rwa [Program.run_eq_of_analyze hparse rfl hresult]

/-- What is in the settings file in JSON shows if a source is a link to it: these trees differ in
that file only, and the file in TOML can be read in both, but the runs end with different codes. -/
theorem linked_json_changes_exitCode :
    (linkedTree []).TomlHolds ⟨"."⟩ {} ∧ (linkedTree [255]).TomlHolds ⟨"."⟩ {} ∧
    Apart [".manualdebtrc.json"] (linkedTree []) (linkedTree [255]) ∧
    (Program.run ⟨0, ""⟩ (linkedTree []) ["analyze"]).exitCode = 0 ∧
    (Program.run ⟨0, ""⟩ (linkedTree [255]) ["analyze"]).exitCode = 2 := by
  obtain ⟨htoml, htoml'⟩ := settings_linkedTree
  refine ⟨htoml, htoml', ?_, ?_, ?_⟩
  · exact apart_setFile [] ".manualdebtrc.json" (by decide) (by decide) (by decide) [255]
  · have hread : (linkedTree []).readText ⟨"./a.cs"⟩ = .ok [] := by decide +kernel
    have husages : (linkedTree []).usagesIn .empty ⟨"./a.cs"⟩ = [] := by
      simp only [usagesIn, hread, CSharp.parseSource_eq]
      decide +kernel
    refine (means_run_of_collect htoml collect_linkedTree.1).zero_iff.2 ⟨?_, by simp⟩
    simp [Faulty, husages, hread]
  · have hread : (linkedTree [255]).readText ⟨"./a.cs"⟩ = .error .notText := by decide +kernel
    exact (means_run_of_collect htoml' collect_linkedTree.2).two_iff.2
      ⟨_, by simp, .inl ⟨_, hread⟩⟩

end FileTree

end DeclaredDebt
