import DeclaredDebt.Program
import DeclaredDebt.Proofs.ExcludeLists
import DeclaredDebt.Proofs.SettingsChoice

/-!
# Setting up directories

A run that sets up a directory gives it a settings file, unless something of that name is there. So
over any number of such runs a tree only gains files: everything that was there stays as it is. A
new file leads no further, and so a path leads to the same directory before and after. From this it
follows that a second run for a directory changes nothing, whatever was set up in between, and that
the settings of the first one stay in force.

Links under the name of the settings file are left out: a file may be written where they lead to.

## Main definitions

* `FileTree.Gains`: a tree that has all of another one, and maybe some more files.
* `FileTree.LeadsTo`: a path leads to a directory.
* `InitRun`: a run that sets up a directory.
* `InitRun.DoneOn`: what such a run does to a tree.
-/

namespace DeclaredDebt

namespace FileTree

variable {t u : FileTree} {links : ℕ} {here : List String} {step : String}

/-! ## Trees that gain files -/

/-- A tree has all that another one has, and what it has besides are files. -/
structure Gains (t u : FileTree) : Prop where
  top : u.top = t.top
  workingDirectory : u.workingDirectory = t.workingDirectory
  entry : ∀ p, u.entry? p = t.entry? p ∨
    t.entry? p = none ∧ ∃ content, u.entry? p = some (.file content)

namespace Gains

theorem refl (t : FileTree) : Gains t t := ⟨rfl, rfl, fun _ => .inl rfl⟩

/-- What is there stays as it is. -/
theorem entry_eq (h : Gains t u) {p : List String} (hp : t.entry? p ≠ none) :
    u.entry? p = t.entry? p :=
  (h.entry p).resolve_right fun hnew => hp hnew.1

theorem trans {v : FileTree} (h : Gains t u) (h' : Gains u v) : Gains t v := by
  refine ⟨h'.top.trans h.top, h'.workingDirectory.trans h.workingDirectory, ?_⟩
  intro p
  obtain hp | ⟨hnone, content, hfile⟩ := h.entry p
  · rw [← hp]
    exact h'.entry p
  · refine .inr ⟨hnone, content, ?_⟩
    rw [h'.entry_eq (by simp [hfile]), hfile]

/-- No directory is new. -/
theorem directory_iff (h : Gains t u) {p : List String} :
    u.entry? p = some .directory ↔ t.entry? p = some .directory := by
  obtain hp | ⟨hnone, content, hfile⟩ := h.entry p
  · rw [hp]
  · simp [hnone, hfile]

theorem start?_eq (h : Gains t u) (text : String) : u.start? here text = t.start? here text := by
  rw [start?, start?, h.top]

/-- A step leads to the same in both trees, or to nothing in the one and to a new file in the
other. -/
theorem advance_cases (h : Gains t u) (links : ℕ) (here : List String) (step : String) :
    u.advance links here step = t.advance links here step ∨
    (∃ fault, t.advance links here step = .error fault) ∧
      ∃ content, u.advance links here step = .ok ⟨links, here ++ [step], []⟩ ∧
        u.entry? (here ++ [step]) = some (.file content) := by
  unfold advance
  by_cases hhere : t.entry? here = some .directory
  swap
  · simp [hhere, h.directory_iff]
  by_cases hdot : step = "" ∨ step = "."
  · simp [hhere, h.directory_iff, hdot]
  by_cases hdots : step = ".."
  · simp [hhere, h.directory_iff, hdots]
  obtain hstep | ⟨hnone, content, hfile⟩ := h.entry (here ++ [step])
  · simp [hhere, h.directory_iff, hdot, hdots, hstep, h.start?_eq]
  · simp [hhere, h.directory_iff, hdot, hdots, hnone, hfile]

end Gains

/-- Steps lead to a directory. -/
def StepsLeadTo (t : FileTree) (links : ℕ) (here steps directory : List String) : Prop :=
  t.follow false links here steps = .ok directory ∧ t.entry? directory = some .directory

/-- A path leads to a directory. -/
def LeadsTo (t : FileTree) (path : Path) (directory : List String) : Prop :=
  t.locate path = .ok directory ∧ t.entry? directory = some .directory

namespace Gains

/-- **Steps lead to the same directories in both trees.** -/
theorem stepsLeadTo_iff (h : Gains t u) (directory : List String) : ∀ links here steps,
    u.StepsLeadTo links here steps directory ↔ t.StepsLeadTo links here steps directory := by
  refine t.follow_induction ?_ ?_
  · intro links here
    simp [StepsLeadTo, h.directory_iff]
  · intro links here step rest ih
    unfold StepsLeadTo
    rw [follow_cons, follow_cons]
    obtain hsame | ⟨⟨fault, hfault⟩, content, hnew, hfile⟩ := h.advance_cases links here step
    · rw [hsame]
      cases hp : t.advance links here step with
      | error fault => simp
      | ok p => simpa [StepsLeadTo] using ih p hp
    · -- A new file cannot be on the way to a directory.
      simp only [hfault, hnew, Bool.false_eq_true, false_and, if_false, List.nil_append,
        reduceCtorEq, iff_false, not_and]
      intro hplace hdirectory
      rw [follow_of_file hfile hplace, hfile] at hdirectory
      cases hdirectory

/-- **A path leads to the same directory in both trees.** -/
theorem leadsTo_iff (h : Gains t u) {path : Path} {directory : List String} :
    u.LeadsTo path directory ↔ t.LeadsTo path directory := by
  unfold LeadsTo locate
  rw [h.workingDirectory, h.start?_eq]
  cases t.start? t.workingDirectory path.text with
  | none => simp
  | some start =>
    by_cases hempty : path.text = ""
    · simp [hempty]
    · simpa [hempty, StepsLeadTo] using h.stepsLeadTo_iff directory maxLinks start (steps path.text)

end Gains

/-! ## A new file in a directory -/

/-- A file where nothing was is a gain. -/
theorem gains_setFile {directory : List String} (hdirectory : t.entry? directory = some .directory)
    {name : String} (hnone : t.entry? (directory ++ [name]) = none) (content : List UInt8) :
    Gains t (t.setFile (directory ++ [name]) content) := by
  have hsame := sameBut_setFile hdirectory name content
  refine ⟨hsame.top, hsame.workingDirectory, ?_⟩
  intro p
  by_cases hp : p = directory ++ [name]
  · rw [hp]
    exact .inr ⟨hnone, content, entry?_setFile_self _ _ _⟩
  · exact .inl (hsame.entry p hp)

/-! ## Reading a file in a directory -/

/-- What comes behind steps is followed from the place that they lead to. -/
theorem exists_follow_append_eq : ∀ links here steps place,
    t.follow false links here steps = .ok place →
    ∃ fewer, ∀ more,
      t.follow false links here (steps ++ more) = t.follow false fewer place more := by
  refine t.follow_induction ?_ ?_
  · intro links here place hplace
    rw [follow_nil] at hplace
    cases hplace
    exact ⟨links, fun more => rfl⟩
  · intro links here step rest ih place hplace
    rw [follow_cons] at hplace
    cases hp : t.advance links here step with
    | error fault => simp [hp] at hplace
    | ok p =>
      obtain ⟨fewer, hfewer⟩ := ih p hp place (by simpa [hp] using hplace)
      refine ⟨fewer, fun more => ?_⟩
      rw [List.cons_append, follow_cons, hp]
      simpa using hfewer more

/-- A name in a directory leads to what stands there under that name, if it is no link. -/
theorem follow_name {directory : List String} (hdirectory : t.entry? directory = some .directory)
    {name : String} (hname : isName name = true) {e : Entry}
    (hentry : t.entry? (directory ++ [name]) = some e) (hlink : ∀ target, e ≠ .link target)
    (links : ℕ) : t.follow false links directory [name] = .ok (directory ++ [name]) := by
  simp only [isName, Bool.and_eq_true, bne_iff_ne] at hname
  obtain ⟨⟨⟨hempty, hdot⟩, hdots⟩, -⟩ := hname
  rw [follow_cons]
  cases e with
  | link target => exact absurd rfl (hlink target)
  | file content => simp [advance, hdirectory, hempty, hdot, hdots, hentry]
  | directory => simp [advance, hdirectory, hempty, hdot, hdots, hentry]

/-- A name in a directory that nothing stands under leads to nothing; a file can be created
there. -/
theorem follow_free {directory : List String} {name : String} (h : t.IsFree directory name)
    (links : ℕ) : t.follow false links directory [name] = .error .notFound ∧
      t.follow true links directory [name] = .ok (directory ++ [name]) := by
  rw [follow_cons, follow_cons]
  obtain ⟨hdirectory, hempty, hdot, hdots, hnone⟩ := id h
  simp [advance, h, hdirectory, hempty, hdot, hdots, hnone]

/-- A path to a directory and a name in it lead to the file of that name. -/
theorem LeadsTo.locate_join {path : Path} {directory : List String} (h : t.LeadsTo path directory)
    {name : String} (hname : isName name = true) {content : List UInt8}
    (hfile : t.entry? (directory ++ [name]) = some (.file content)) :
    t.locate (path.join name) = .ok (directory ++ [name]) := by
  obtain ⟨hlocate, hdirectory⟩ := h
  unfold locate at hlocate
  split at hlocate
  · cases hlocate
  · next start hstart =>
    split at hlocate
    · cases hlocate
    · next hempty =>
      obtain ⟨fewer, hfewer⟩ := exists_follow_append_eq _ _ _ _ hlocate
      have hbelow : t.locate (pathBelow path [name]) = t.follow false maxLinks start
          (steps path.text ++ [name]) :=
        locate_pathBelow hempty hstart (by simp) (by simpa using hname)
      rw [hfewer, follow_name hdirectory hname hfile (by simp)] at hbelow
      simpa [pathBelow] using hbelow

/-- A file that was written as a text is read as that text. -/
theorem readText_eq_of_entry {p : Path} {place : List String} (hp : t.locate p = .ok place)
    {text : String} (hfile : t.entry? place = some (.file text.toUTF8.data.toList)) :
    t.readText p = .ok text.toList := by
  have htext : String.fromUTF8? text.toUTF8 = some text := by
    unfold String.fromUTF8?
    rw [dif_pos (show text.toUTF8.IsValidUTF8 from text.isValidUTF8)]
    rfl
  simp only [readText, read, contentAt, hp, hfile, bind, Except.bind, Array.toArray_toList]
  rw [htext]

end FileTree

/-! ## The settings of the template -/

namespace Settings

theorem isName_tomlName : FileTree.isName tomlName = true := by decide

theorem toList_template :
    template.toList = (templateLines.map fun line => line.toList ++ ['\n']).flatten := by
  have hline : (fun line : String => (line ++ "\n").toList) =
      fun line => line.toList ++ ['\n'] := by
    funext line
    exact String.toList_append
  rw [template, String.toList_join, List.flatMap_map, hline, List.flatMap_def]

/-- The template is read as the settings that its comments promise. -/
theorem ofToml?_template :
    ofToml? template.toList = some {
      exclude := ["bin/", "obj/", "*.Designer.cs"], format? := some "text",
      severity? := some .info } := by
  rw [toList_template]
  decide +kernel

end Settings

namespace FileTree

variable {t u : FileTree} {path : Path} {directory : List String}

/-- Where a directory holds the template, its settings are the ones of the template. -/
theorem LeadsTo.settings_eq (h : t.LeadsTo path directory)
    (hfile : t.entry? (directory ++ [Settings.tomlName]) =
      some (.file Settings.template.toUTF8.data.toList)) :
    t.settings path = {
      exclude := ["bin/", "obj/", "*.Designer.cs"], format? := some "text",
      severity? := some .info } := by
  have hplace : t.settingsDirectory path = path := by
    simp [settingsDirectory, isFile, lookup?, h.1, h.2]
  have hread := readText_eq_of_entry (h.locate_join Settings.isName_tomlName hfile) hfile
  refine chosenFor_iff.1 (.toml ⟨_, ?_, Settings.ofToml?_template⟩)
  rw [hplace, hread]

/-! ## One run -/

/-- The tree with a settings file in a directory, unless something of its name is there. -/
def withSettings (t : FileTree) (directory : List String) : FileTree :=
  if t.entry? (directory ++ [Settings.tomlName]) = none then
    t.setFile (directory ++ [Settings.tomlName]) Settings.template.toUTF8.data.toList
  else t

theorem withSettings_of_ne_none (h : t.entry? (directory ++ [Settings.tomlName]) ≠ none) :
    t.withSettings directory = t := if_neg h

theorem withSettings_of_eq_none (h : t.entry? (directory ++ [Settings.tomlName]) = none) :
    t.withSettings directory =
      t.setFile (directory ++ [Settings.tomlName]) Settings.template.toUTF8.data.toList := if_pos h

theorem gains_withSettings (hdirectory : t.entry? directory = some .directory) :
    Gains t (t.withSettings directory) := by
  by_cases hnone : t.entry? (directory ++ [Settings.tomlName]) = none
  · rw [withSettings_of_eq_none hnone]
    exact gains_setFile hdirectory hnone _
  · rw [withSettings_of_ne_none hnone]
    exact .refl t

/-- Afterwards something of that name is there. -/
theorem entry?_withSettings_ne_none (t : FileTree) (directory : List String) :
    FileTree.entry? (t.withSettings directory) (directory ++ [Settings.tomlName]) ≠ none := by
  by_cases hnone : t.entry? (directory ++ [Settings.tomlName]) = none
  · rw [withSettings_of_eq_none hnone, entry?_setFile_self]
    simp
  · rwa [withSettings_of_ne_none hnone]

/-- No link has the name of the settings file. -/
def Unlinked (t : FileTree) : Prop :=
  ∀ directory target, t.entry? (directory ++ [Settings.tomlName]) ≠ some (.link target)

theorem Gains.unlinked (h : Gains t u) (ht : t.Unlinked) : u.Unlinked := by
  intro directory target
  obtain hsame | ⟨-, content, hfile⟩ := h.entry (directory ++ [Settings.tomlName])
  · rw [hsame]
    exact ht directory target
  · simp [hfile]

theorem exists_setUp_eq_error (h : ∀ directory, ¬ t.LeadsTo path directory) :
    ∃ e, t.setUp path = .error e := by
  unfold setUp
  cases hlocate : t.locate path with
  | error fault => exact ⟨_, rfl⟩
  | ok place =>
    have hplace : t.entry? place ≠ some .directory := fun hentry => h place ⟨hlocate, hentry⟩
    simp [hplace]

theorem exists_setUp_eq_ok (ht : t.Unlinked) (h : t.LeadsTo path directory) :
    ∃ out, t.setUp path = .ok { stdout := out, tree := t.withSettings directory } := by
  obtain ⟨hlocate, hdirectory⟩ := h
  unfold setUp holds
  cases hentry : t.entry? (directory ++ [Settings.tomlName]) with
  | none =>
    have hfree : t.IsFree directory Settings.tomlName :=
      ⟨hdirectory, by decide, by decide, by decide, hentry⟩
    obtain ⟨hfollow, hcreate⟩ := follow_free hfree maxLinks
    simp [hlocate, hdirectory, hfollow, hcreate, withSettings_of_eq_none hentry]
  | some e =>
    have hlink : ∀ target, e ≠ .link target := by
      rintro target rfl
      exact ht directory target hentry
    have hfollow := follow_name hdirectory Settings.isName_tomlName hentry hlink maxLinks
    have hkept : t.withSettings directory = t := withSettings_of_ne_none (by simp [hentry])
    simp [hlocate, hdirectory, hfollow, hentry, hkept]

end FileTree

/-- A run that sets up a directory. -/
structure InitRun where
  clock : Clock
  recovery : Recovery := .empty
  arguments : List String
  invocation : Invocation
  parsed : CommandLine.parse arguments = .ok invocation
  isInit : invocation.command? = some .init

namespace InitRun

/-- The path of the directory. -/
def path (r : InitRun) : Path := r.invocation.path

/-- The run on a tree. -/
def on (r : InitRun) (t : FileTree) : RunResult := Program.run r.clock t r.arguments r.recovery

/-- The tree after some runs, one after the other. -/
def all (runs : List InitRun) (t : FileTree) : FileTree := runs.foldl (fun t r => (r.on t).tree) t

variable {t : FileTree}

theorem on_eq (r : InitRun) (t : FileTree) :
    r.on t = match t.setUp r.path with
      | .ok result => result
      | .error e => { exitCode := 1, stderr := e.report, tree := t } := by
  have hrun : r.invocation.run r.clock t r.recovery = t.setUp r.path := by
    simp only [Invocation.run, r.isInit, path]
  cases hsetUp : t.setUp r.path with
  | ok result => simp [on, Program.run, r.parsed, hrun, hsetUp]
  | error e => simp [on, Program.run, r.parsed, hrun, hsetUp]

theorem all_append (runs more : List InitRun) (t : FileTree) :
    all (runs ++ more) t = all more (all runs t) := List.foldl_append

theorem all_cons (r : InitRun) (runs : List InitRun) (t : FileTree) :
    all (r :: runs) t = all runs (r.on t).tree := rfl

/-- **What a run can do**: it fails and leaves the tree, or it sets up the directory that its path
leads to. -/
theorem on_cases (r : InitRun) (ht : t.Unlinked) :
    (∀ directory, ¬ t.LeadsTo r.path directory) ∧ (r.on t).exitCode = 1 ∧ (r.on t).tree = t ∨
    ∃ directory, t.LeadsTo r.path directory ∧ (r.on t).exitCode = 0 ∧
      (r.on t).tree = t.withSettings directory := by
  by_cases h : ∃ directory, t.LeadsTo r.path directory
  · obtain ⟨directory, hleads⟩ := h
    obtain ⟨out, hout⟩ := FileTree.exists_setUp_eq_ok ht hleads
    exact .inr ⟨directory, hleads, by simp [on_eq, hout], by simp [on_eq, hout]⟩
  · have hnone := not_exists.1 h
    obtain ⟨e, he⟩ := FileTree.exists_setUp_eq_error hnone
    exact .inl ⟨hnone, by simp [on_eq, he], by simp [on_eq, he]⟩

theorem tree_on_of_leadsTo (r : InitRun) (ht : t.Unlinked) {directory : List String}
    (h : t.LeadsTo r.path directory) : (r.on t).tree = t.withSettings directory := by
  obtain ⟨hnone, -, -⟩ | ⟨found, hfound, -, htree⟩ := r.on_cases ht
  · exact absurd h (hnone directory)
  · cases h.1.symm.trans hfound.1
    exact htree

/-! ## Any number of runs -/

/-- One run only adds files. -/
theorem gains_on (r : InitRun) (ht : t.Unlinked) : t.Gains (r.on t).tree := by
  obtain ⟨-, -, htree⟩ | ⟨directory, hleads, -, htree⟩ := r.on_cases ht
  · rw [htree]
    exact .refl t
  · rw [htree]
    exact FileTree.gains_withSettings hleads.2

/-- Any number of runs only add files. -/
theorem gains_all (runs : List InitRun) (ht : t.Unlinked) : t.Gains (all runs t) := by
  induction runs generalizing t with
  | nil => exact .refl t
  | cons r runs ih =>
    rw [all_cons]
    exact (r.gains_on ht).trans (ih ((r.gains_on ht).unlinked ht))

theorem unlinked_all (runs : List InitRun) (ht : t.Unlinked) : (all runs t).Unlinked :=
  (gains_all runs ht).unlinked ht

/-- A run on a tree with more files than one where its directory was set up changes nothing, and
neither does one whose path leads to no directory. -/
theorem tree_on_of_gains (r again : InitRun) (ht : t.Unlinked) {u : FileTree}
    (hu : (r.on t).tree.Gains u) (hpath : t.locate again.path = t.locate r.path) :
    (again.on u).tree = u := by
  have hgains : t.Gains u := (r.gains_on ht).trans hu
  have hleads : ∀ directory, u.LeadsTo again.path directory ↔ t.LeadsTo r.path directory := by
    intro directory
    rw [hgains.leadsTo_iff, FileTree.LeadsTo, FileTree.LeadsTo, hpath]
  obtain ⟨-, -, htree⟩ | ⟨directory, hfound, -, htree⟩ := again.on_cases (hgains.unlinked ht)
  · exact htree
  · have hthere := t.entry?_withSettings_ne_none directory
    rw [← r.tree_on_of_leadsTo ht ((hleads directory).1 hfound)] at hthere
    rw [htree]
    refine FileTree.withSettings_of_ne_none ?_
    rwa [hu.entry_eq hthere]

/-- What a run does to a tree. -/
structure DoneOn (r : InitRun) (t : FileTree) : Prop where
  /-- What was there stays as it was. -/
  kept : ∀ place, t.entry? place ≠ none → FileTree.entry? (r.on t).tree place = t.entry? place
  succeeds_iff : (r.on t).exitCode = 0 ↔ t.isDirectory r.path = true
  failed : (r.on t).exitCode ≠ 0 → (r.on t).tree = t
  /-- Where something has the name of the settings file, nothing is done. -/
  present : ∀ directory, t.LeadsTo r.path directory →
    t.entry? (directory ++ [Settings.tomlName]) ≠ none → (r.on t).tree = t
  /-- Where nothing has it, that file is new and nothing else. -/
  created : ∀ directory, t.LeadsTo r.path directory →
    t.entry? (directory ++ [Settings.tomlName]) = none →
    FileTree.SameBut (directory ++ [Settings.tomlName]) t (r.on t).tree ∧
    FileTree.entry? (r.on t).tree (directory ++ [Settings.tomlName]) =
      some (.file Settings.template.toUTF8.data.toList)
  /-- It says what the settings of the directory are from then on. -/
  settings : ∀ directory, t.LeadsTo r.path directory →
    t.entry? (directory ++ [Settings.tomlName]) = none →
    ∀ later path, (all later (r.on t).tree).LeadsTo path directory →
    (all later (r.on t).tree).settings path = {
      exclude := ["bin/", "obj/", "*.Designer.cs"], format? := some "text",
      severity? := some .info }

theorem succeeds_iff_isDirectory (r : InitRun) (ht : t.Unlinked) :
    (r.on t).exitCode = 0 ↔ t.isDirectory r.path = true := by
  rw [FileTree.isDirectory_iff]
  obtain ⟨hnone, hcode, -⟩ | ⟨directory, hleads, hcode, -⟩ := r.on_cases ht
  · rw [hcode]
    exact ⟨by simp, fun ⟨directory, hleads⟩ => absurd hleads (hnone directory)⟩
  · exact ⟨fun _ => ⟨directory, hleads⟩, fun _ => hcode⟩

theorem doneOn (r : InitRun) (ht : t.Unlinked) : r.DoneOn t := by
  have hcreated : ∀ directory, t.LeadsTo r.path directory →
      t.entry? (directory ++ [Settings.tomlName]) = none →
      FileTree.SameBut (directory ++ [Settings.tomlName]) t (r.on t).tree ∧
      FileTree.entry? (r.on t).tree (directory ++ [Settings.tomlName]) =
        some (.file Settings.template.toUTF8.data.toList) := by
    intro directory hleads hnone
    rw [r.tree_on_of_leadsTo ht hleads, FileTree.withSettings_of_eq_none hnone]
    exact ⟨FileTree.sameBut_setFile hleads.2 _ _, FileTree.entry?_setFile_self _ _ _⟩
  have hgains := r.gains_on ht
  refine ⟨fun place => hgains.entry_eq, r.succeeds_iff_isDirectory ht, ?_, ?_, hcreated, ?_⟩
  · intro hcode
    obtain ⟨-, -, htree⟩ | ⟨-, -, hzero, -⟩ := r.on_cases ht
    · exact htree
    · exact absurd hzero hcode
  · intro directory hleads hthere
    rw [r.tree_on_of_leadsTo ht hleads, FileTree.withSettings_of_ne_none hthere]
  · intro directory hleads hnone later path hpath
    obtain ⟨-, hfile⟩ := hcreated directory hleads hnone
    have hlater := gains_all later (hgains.unlinked ht)
    refine hpath.settings_eq ?_
    rw [hlater.entry_eq (by simp [hfile]), hfile]

end InitRun

/-- **Setting up directories keeps what is there and is done once.** After any number of runs, a run
changes nothing that was there and fails without a change if its path leads to no directory. In a
directory without a settings file it creates that file and nothing else, and the settings are then
the ones of the template. A later run for the same place changes nothing, whatever runs come
between. -/
theorem set_up_once_and_nothing_lost (t : FileTree) (ht : t.Unlinked) (earlier : List InitRun)
    (r : InitRun) :
    r.DoneOn (InitRun.all earlier t) ∧
    ∀ (later : List InitRun) (again : InitRun),
      (InitRun.all earlier t).locate again.path = (InitRun.all earlier t).locate r.path →
      (again.on (InitRun.all (earlier ++ r :: later) t)).tree =
        InitRun.all (earlier ++ r :: later) t := by
  have hbefore := InitRun.unlinked_all earlier ht
  refine ⟨r.doneOn hbefore, ?_⟩
  intro later again hpath
  rw [InitRun.all_append, InitRun.all_cons]
  exact r.tree_on_of_gains again hbefore
    (InitRun.gains_all later ((r.gains_on hbefore).unlinked hbefore)) hpath

/-- The run for the working directory. -/
def InitRun.here : InitRun where
  clock := ⟨0, ""⟩
  arguments := ["init"]
  invocation := ⟨⟨"."⟩, .warn, none, some .init⟩
  parsed := by rfl
  isInit := rfl

/-- The run for a directory below. -/
def InitRun.below : InitRun where
  clock := ⟨0, ""⟩
  arguments := ["init", "sub/"]
  invocation := ⟨⟨"sub/"⟩, .warn, none, some .init⟩
  parsed := by rfl
  isInit := rfl

/-- A tree with a source, settings in JSON, and a directory under the name of a settings file. -/
def unsettledTree : FileTree where
  entries := [
    (["sub", "a.cs"], .file [99]),
    ([".manualdebtrc.json"], .file [123, 125]),
    (["other", "manual-debt.toml", "b.cs"], .file [])]

theorem unlinked_unsettledTree : unsettledTree.Unlinked := by
  intro directory target hentry
  have hlisted := FileTree.mem_entries hentry (by simp)
  simp [unsettledTree] at hlisted

/-- The working directory is set up after a directory below it; its settings are read and the file
in JSON is kept, and doing it again changes nothing. -/
theorem unsettledTree_set_up_once :
    (InitRun.here.on (InitRun.all [.below] unsettledTree)).exitCode = 0 ∧
    FileTree.entry? (InitRun.all [.below, .here] unsettledTree) [".manualdebtrc.json"] =
      some (.file [123, 125]) ∧
    (InitRun.all [.below, .here] unsettledTree).settings ⟨"."⟩ = {
      exclude := ["bin/", "obj/", "*.Designer.cs"], format? := some "text",
      severity? := some .info } ∧
    (InitRun.here.on (InitRun.all [.below, .here, .below] unsettledTree)).tree =
      InitRun.all [.below, .here, .below] unsettledTree := by
  obtain ⟨hdone, hagain⟩ :=
    set_up_once_and_nothing_lost unsettledTree unlinked_unsettledTree [.below] .here
  have hgains := InitRun.gains_all [.below] unlinked_unsettledTree
  have hleads : (InitRun.all [.below] unsettledTree).LeadsTo ⟨"."⟩ [] :=
    hgains.leadsTo_iff.2 ⟨by decide, by decide⟩
  have hjson : FileTree.entry? (InitRun.all [.below] unsettledTree) [".manualdebtrc.json"] =
      some (.file [123, 125]) := hgains.entry_eq (by decide)
  have hsub : InitRun.all [.below] unsettledTree = unsettledTree.withSettings ["sub"] :=
    InitRun.below.tree_on_of_leadsTo unlinked_unsettledTree ⟨by decide, by decide⟩
  have hnone : FileTree.entry? (InitRun.all [.below] unsettledTree) [Settings.tomlName] = none := by
    rw [hsub, FileTree.withSettings_of_eq_none (by decide),
      FileTree.entry?_setFile_of_ne _ (by decide)]
    decide
  refine ⟨hdone.succeeds_iff.2 ((FileTree.isDirectory_iff _ _).2 ⟨[], hleads⟩), ?_, ?_, ?_⟩
  · exact (hdone.kept _ (by simp [hjson])).trans hjson
  · refine hdone.settings [] hleads hnone [] ⟨"."⟩ ?_
    exact (InitRun.here.gains_on (hgains.unlinked unlinked_unsettledTree)).leadsTo_iff.2 hleads
  · exact hagain [.below] .here rfl

end DeclaredDebt
