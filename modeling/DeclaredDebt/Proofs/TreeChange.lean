import DeclaredDebt.Proofs.Merge
import DeclaredDebt.Proofs.PathSteps
import DeclaredDebt.Settings

/-!
# Trees that differ at one place

Two trees that differ at one place are the same to every path whose way does not lead over it. If an
analysis comes upon that place with none of the paths that it can resolve, then the sources that are
collected, the ignore files that are read, and the texts of both are the same in the two trees.

## Main definitions

* `FileTree.Enters`: a walk looks into a directory.
* `FileTree.Overlooks`: an analysis does not come upon a place.
* `FileTree.SameBut`, `FileTree.Apart`: two trees that differ at one place at most.
-/

namespace DeclaredDebt.FileTree

variable {t u : FileTree} {site here : List String} {links : ℕ} {step : String}

/-! ## What a walk gets to -/

theorem findSome?_congr {α β : Type} {f g : α → Option β} {l : List α}
    (hfg : ∀ x ∈ l, f x = g x) : l.findSome? f = l.findSome? g := by
  rw [← List.head?_filterMap, ← List.head?_filterMap, List.filterMap_congr hfg]

/-- What is there and no directory is listed. -/
theorem mem_entries {p : List String} {e : Entry} (hp : t.entry? p = some e) (he : e ≠ .directory) :
    (p, e) ∈ t.entries := by
  unfold entry? at hp
  split at hp
  · next found hfound =>
    have hfoundAt : found.1 = p := by simpa using List.find?_some hfound
    rw [← hfoundAt, ← Option.some.inj hp]
    exact List.mem_of_find?_eq_some hfound
  · split_ifs at hp
    exact absurd (Option.some.inj hp).symm he

theorem mem_places {p : List String} {e : Entry} (hp : t.entry? p = some e) (he : e ≠ .directory) :
    p ∈ t.places := by
  rw [places, List.mem_eraseDups]
  exact List.mem_map_of_mem (f := Prod.fst) (mem_entries hp he)

/-- What a walk yields: names that lead to something which is no directory and is not left out. -/
theorem mem_walk_iff {place below : List String} :
    below ∈ t.walk place ↔ below ≠ [] ∧ (∀ name ∈ below, isName name = true) ∧
      (∃ e, t.entry? (place ++ below) = some e ∧ e ≠ .directory) ∧
      t.admits place below = true := by
  unfold walk
  rw [List.mem_filterMap]
  constructor
  · rintro ⟨listed, hlisted, hsome⟩
    obtain ⟨rfl, hne, hnames⟩ := of_walk_eq_some hsome
    have hcond := (Option.ite_none_right_eq_some.1 hsome).1
    rw [List.drop_left] at hcond
    simp only [Bool.and_eq_true, bne_iff_ne] at hcond
    have hentry : t.entry? (place ++ below) ≠ none := by
      rw [places, List.mem_eraseDups, List.mem_map] at hlisted
      obtain ⟨e, he, hat⟩ := hlisted
      have hfound : (t.entries.find? (·.1 == place ++ below)).isSome = true :=
        List.find?_isSome.2 ⟨e, he, by simp [hat]⟩
      obtain ⟨found, hfound⟩ := Option.isSome_iff_exists.1 hfound
      simp [hfound, entry?]
    obtain ⟨e, he⟩ := Option.ne_none_iff_exists'.1 hentry
    exact ⟨hne, hnames, ⟨e, he, fun hdirectory => hcond.1.2 (hdirectory ▸ he)⟩, hcond.2⟩
  · rintro ⟨hne, hnames, ⟨e, he, hfile⟩, hadmits⟩
    refine ⟨place ++ below, mem_places he hfile, ?_⟩
    rw [List.drop_left, Option.ite_none_right_eq_some]
    simpa [he, hfile, hne, hadmits] using hnames

theorem exists_locate_of_isFile {p : Path} (h : t.isFile p = true) :
    ∃ place, t.locate p = .ok place := by
  cases hplace : t.locate p with
  | ok place => exact ⟨place, rfl⟩
  | error fault => simp [isFile, lookup?, hplace] at h

/-- A collected file can be resolved. -/
theorem exists_locate_of_mem_collect {globs : List (List Glob.Piece)} {root file : Path}
    {files : List Path} (h : t.collect globs root = .ok files) (hfile : file ∈ files) :
    ∃ place, t.locate file = .ok place := by
  unfold collect at h
  cases hplace : t.locate root with
  | error fault => simp [hplace] at h
  | ok place =>
    simp only [hplace] at h
    split at h
    · cases h
      split_ifs at hfile
      · exact ⟨place, List.mem_singleton.1 hfile ▸ hplace⟩
      · simp at hfile
    · cases h
      rw [collectBelow, sourcesAmong, List.mem_mergeSort, List.mem_map] at hfile
      obtain ⟨below, hbelow, rfl⟩ := hfile
      have hsource := (List.mem_filter.1 hbelow).2
      simp only [isSource, Bool.and_eq_true] at hsource
      exact exists_locate_of_isFile hsource.1.1
    · cases h

/-- One more name is admitted if what leads to it is and the name is not left out. -/
theorem admits_concat (t : FileTree) (place names : List String) (name : String) :
    t.admits place (names ++ [name]) =
      (t.admits place names && !t.leavesOut (place ++ (names ++ [name]))) := by
  have hbefore : ∀ n ∈ List.range names.length,
      (names ++ [name]).take (n + 1) = names.take (n + 1) := by
    intro n hn
    exact List.take_append_of_le_length (List.mem_range.1 hn)
  unfold admits
  rw [List.length_append, List.length_singleton, List.range_succ, List.all_append, List.all_cons,
    List.all_nil, Bool.and_true, List.take_of_length_le (by simp)]
  congr 1
  rw [Bool.eq_iff_iff, List.all_eq_true, List.all_eq_true]
  refine forall₂_congr fun n hn => ?_
  rw [hbefore n hn]

/-- A walk below a root looks into a directory: it is on the way to something that is not left
out. -/
def Enters (t : FileTree) (root : Path) (directory : List String) : Prop :=
  ∃ place below, t.locate root = .ok place ∧ t.entry? place = some .directory ∧
    t.admits place below = true ∧ directory <+: place ++ below

/-! ## Analyses that do not come upon a place -/

/-- The steps that are followed to write a file for a path: without the last name, if the path ends
with a slash. -/
def stepsToWrite (p : Path) : List String :=
  if (steps p.text).getLast? = some "" then (steps p.text).dropLast.dropLast else steps p.text

/-- The way to where a file for a path is written leads over a place. -/
def WritesOver (t : FileTree) (site : List String) (p : Path) : Prop :=
  ∃ start, t.start? t.workingDirectory p.text = some start ∧
    t.LeadsOver site maxLinks start (stepsToWrite p)

/-- Those steps are followed, and a path that ends with a slash is then refused. -/
theorem placeToWrite_eq_follow {p : Path} {start : List String}
    (hstart : t.start? t.workingDirectory p.text = some start) (htext : p.text ≠ "") :
    t.placeToWrite p =
      if (steps p.text).getLast? = some "" then
        (t.follow false maxLinks start (stepsToWrite p)).bind fun _ => .error .isDirectory
      else t.follow true maxLinks start (stepsToWrite p) := by
  unfold placeToWrite stepsToWrite
  simp only [hstart, htext, if_false]
  obtain hnil | ⟨front, last, hlast⟩ := List.eq_nil_or_concat' (steps p.text)
  · simp [hnil]
  · by_cases hempty : last = ""
    · simp only [hlast, hempty, List.reverse_append, List.reverse_singleton, List.singleton_append,
        List.getLast?_concat, if_true, List.dropLast_concat, List.tail_reverse, List.reverse_reverse]
      cases t.follow false maxLinks start front.dropLast <;> rfl
    · simp [hlast, hempty]

/-- Where a place is a file or nothing, a file whose way leads over it is written to it. -/
theorem eq_of_writesOver (hsite : ∀ e, t.entry? site = some e → ∃ content, e = .file content)
    {p : Path} {place : List String} (h : t.WritesOver site p)
    (hplace : t.placeToWrite p = .ok place) : place = site := by
  obtain ⟨start, hstart, hover⟩ := h
  by_cases htext : p.text = ""
  · simp [placeToWrite, start?, htext] at hplace
  rw [placeToWrite_eq_follow hstart htext] at hplace
  split_ifs at hplace
  · cases hfollow : t.follow false maxLinks start (stepsToWrite p) <;>
      simp [hfollow, Except.bind] at hplace
  · exact follow_of_leadsOver hsite hover hplace

/-- An analysis below a root under some settings does not come upon a place: the way of nothing that
it resolves leads over it, and what it writes stays clear of it or replaces it. -/
structure Overlooks (t : FileTree) (site : List String) (s : Settings) (root : Path)
    (output? : Option Path) : Prop where
  path : ¬ t.Meets site root
  settings : ¬ t.Meets site ((t.settingsDirectory root).join Settings.tomlName)
  ignoreFiles : ∀ directory, t.Enters root directory →
    ∀ names ∈ ignoreFiles, ¬ t.MeetsFrom site directory names
  sources : ∀ globs files, Exclude.parse s.exclude = .ok globs → t.collect globs root = .ok files →
    ∀ file ∈ files, ¬ t.Meets site file
  output : ∀ output, output? = some output → t.WritesOver site output →
    t.placeToWrite output = .ok site ∧ t.entry? site ≠ some .directory

/-! ## Trees that differ at one place -/

/-- What is somewhere is above an entry. -/
theorem exists_mem_entries {p : List String} (h : t.entry? p ≠ none) :
    p = [] ∨ ∃ e ∈ t.entries, p <+: e.1 := by
  unfold entry? at h
  split at h
  · next e he =>
    have hp : e.1 = p := by simpa using List.find?_some he
    exact .inr ⟨e, List.mem_of_find?_eq_some he, hp ▸ List.prefix_refl _⟩
  · split at h
    · next hsome =>
      simpa [List.isEmpty_iff, List.any_eq_true, List.isPrefixOf_iff_prefix] using hsome
    · exact absurd rfl h

/-- What is above something is there too. -/
theorem entry?_ne_none_of_isPrefix {p q : List String} (hq : t.entry? q ≠ none) (hp : p <+: q) :
    t.entry? p ≠ none := by
  have habove : p = [] ∨ ∃ e ∈ t.entries, p <+: e.1 := by
    obtain rfl | ⟨e, he, hstarts⟩ := exists_mem_entries hq
    · exact .inl (List.prefix_nil.1 hp)
    · exact .inr ⟨e, he, hp.trans hstarts⟩
  have hsome : (p.isEmpty || t.entries.any fun e => p.isPrefixOf e.1) = true := by
    simpa [List.isEmpty_iff, List.any_eq_true, List.isPrefixOf_iff_prefix] using habove
  unfold entry?
  split
  · simp
  · simp [hsome]

/-- Two trees that differ at one place at most. -/
structure SameBut (site : List String) (t u : FileTree) : Prop where
  top : u.top = t.top
  workingDirectory : u.workingDirectory = t.workingDirectory
  entry : ∀ p, p ≠ site → u.entry? p = t.entry? p

/-- Two trees that differ at most at a place below their top, where no path starts and which nothing
stands below. -/
structure Apart (site : List String) (t u : FileTree) : Prop where
  same : SameBut site t u
  inside : site ≠ []
  outside : t.workingDirectory ≠ site
  bare : ∀ name rest, t.entry? (site ++ name :: rest) = none

namespace Apart

variable (h : Apart site t u)

include h

theorem symm : Apart site u t where
  same := ⟨h.same.top.symm, h.same.workingDirectory.symm, fun p hp => (h.same.entry p hp).symm⟩
  inside := h.inside
  outside := h.same.workingDirectory ▸ h.outside
  bare := by
    intro name rest
    rw [h.same.entry _ (by simp), h.bare]

/-- The way to something else does not lead over the place. -/
theorem ne_of_isPrefix {p q : List String} (hq : t.entry? q ≠ none) (hne : q ≠ site)
    (hp : p <+: q) : p ≠ site := by
  rintro rfl
  obtain ⟨rest, rfl⟩ := hp
  cases rest with
  | nil => simp at hne
  | cons name rest => exact hq (h.bare name rest)

theorem start?_eq (target : String) : u.start? here target = t.start? here target := by
  rw [start?, start?, h.same.top]

theorem ne_of_start? {target : String} {place : List String} (hhere : here ≠ site)
    (hplace : t.start? here target = some place) : place ≠ site := by
  have hinside := h.inside
  unfold start? at hplace
  grind

/-! ### Steps -/

theorem looksAt_iff (hhere : here ≠ site) :
    u.LooksAt site here step ↔ t.LooksAt site here step := by
  rw [LooksAt, LooksAt, h.same.entry here hhere]

/-- A step that does not look at the place is the same in both trees. -/
theorem advance_eq (hhere : here ≠ site) (hstep : ¬ t.LooksAt site here step) :
    u.advance links here step = t.advance links here step := by
  unfold advance
  rw [h.same.entry here hhere]
  by_cases hdirectory : t.entry? here = some .directory
  swap
  · simp [hdirectory]
  by_cases hdot : step = "" ∨ step = "."
  · simp [hdirectory, hdot]
  by_cases hdots : step = ".."
  · simp [hdirectory, hdots]
  obtain ⟨hempty, hdot⟩ := not_or.1 hdot
  have hne : here ++ [step] ≠ site := fun heq => hstep ⟨hdirectory, hempty, hdot, hdots, heq⟩
  simp only [h.same.entry _ hne, h.start?_eq]

/-- A step that does not look at the place leads elsewhere. -/
theorem advance_ne (hhere : here ≠ site) (hstep : ¬ t.LooksAt site here step) {p : Progress}
    (hp : t.advance links here step = .ok p) : p.here ≠ site := by
  unfold advance at hp
  split_ifs at hp with hdirectory hdot hdots
  · cases hp
    exact hhere
  · cases hp
    exact h.ne_of_isPrefix (by simp [not_not.1 hdirectory]) hhere (List.dropLast_prefix here)
  · split at hp
    · cases hp
    · split at hp
      · cases hp
      · split at hp
        · cases hp
        · next place hplace =>
          cases hp
          exact h.ne_of_start? hhere hplace
    · cases hp
      obtain ⟨hempty, hdot⟩ := not_or.1 hdot
      exact fun heq => hstep ⟨not_not.1 hdirectory, hempty, hdot, hdots, heq⟩

/-- **Steps whose way does not lead over the place lead to the same in both trees**, and not to
it. -/
theorem agrees (creating : Bool) : ∀ links here steps,
    here ≠ site → ¬ t.LeadsOver site links here steps →
    u.follow creating links here steps = t.follow creating links here steps ∧
      ∀ place, t.follow creating links here steps = .ok place → place ≠ site := by
  refine t.follow_induction ?_ ?_
  · intro links here hhere _
    simpa using hhere
  · intro links here step rest ih hhere hway
    obtain ⟨hstep, hlater⟩ := not_or.1 (leadsOver_cons_iff.not.1 hway)
    have hfree : u.IsFree here step ↔ t.IsFree here step := by
      unfold IsFree
      rw [h.same.entry here hhere]
      refine and_congr_right fun hdirectory => and_congr_right fun hempty =>
        and_congr_right fun hdot => and_congr_right fun hdots => ?_
      rw [h.same.entry _ fun heq => hstep ⟨hdirectory, hempty, hdot, hdots, heq⟩]
    simp only [follow_cons, hfree, h.advance_eq hhere hstep]
    split
    · next hnew =>
      obtain ⟨-, -, hdirectory, hempty, hdot, hdots, -⟩ := hnew
      refine ⟨rfl, ?_⟩
      rintro place ⟨⟩ heq
      exact hstep ⟨hdirectory, hempty, hdot, hdots, heq⟩
    · cases hp : t.advance links here step with
      | error fault => simp
      | ok p => exact ih p hp (h.advance_ne hhere hstep hp) fun hover => hlater ⟨p, hp, hover⟩

/-- A way leads over the place in both trees or in neither. -/
theorem leadsOver_iff : ∀ links here steps, here ≠ site →
    (u.LeadsOver site links here steps ↔ t.LeadsOver site links here steps) := by
  refine t.follow_induction ?_ ?_
  · intro links here _
    exact iff_of_false not_leadsOver_nil not_leadsOver_nil
  · intro links here step rest ih hhere
    rw [leadsOver_cons_iff, leadsOver_cons_iff, h.looksAt_iff hhere]
    by_cases hstep : t.LooksAt site here step
    · exact iff_of_true (.inl hstep) (.inl hstep)
    · rw [h.advance_eq hhere hstep]
      refine or_congr_right (exists_congr fun p => and_congr_right fun hp => ?_)
      exact ih p hp (h.advance_ne hhere hstep hp)

/-! ### What a path leads to -/

/-- Steps that do not meet the place are resolved in the same way in the other tree. -/
theorem follow_of_not_meetsFrom {steps place : List String} (hhere : here ≠ site)
    (hsteps : ¬ t.MeetsFrom site here steps)
    (hplace : t.follow false maxLinks here steps = .ok place) :
    u.follow false maxLinks here steps = .ok place ∧ place ≠ site := by
  have hway : ¬ t.LeadsOver site maxLinks here steps := fun hover => hsteps ⟨⟨place, hplace⟩, hover⟩
  obtain ⟨hsame, hne⟩ := h.agrees false _ _ _ hhere hway
  exact ⟨hsame.trans hplace, hne place hplace⟩

/-- **A path that does not meet the place is resolved in the same way in the other tree.** -/
theorem locate_of_not_meets {p : Path} {place : List String} (hp : ¬ t.Meets site p)
    (hplace : t.locate p = .ok place) : u.locate p = .ok place ∧ place ≠ site := by
  have htext := text_ne_of_locate hplace
  unfold locate at hplace ⊢
  rw [h.same.workingDirectory, h.start?_eq]
  cases hstart : t.start? t.workingDirectory p.text with
  | none => simp [hstart] at hplace
  | some start =>
    simp only [hstart, htext, if_false] at hplace ⊢
    exact h.follow_of_not_meetsFrom (h.ne_of_start? h.outside hstart)
      (fun hmeets => hp ⟨start, hstart, hmeets⟩) hplace

/-- A path that meets the place in neither tree leads to the same in both, or to nothing in
either. -/
theorem locate_cases {p : Path} (ht : ¬ t.Meets site p) (hu : ¬ u.Meets site p) :
    (∃ place, t.locate p = .ok place ∧ u.locate p = .ok place ∧ place ≠ site) ∨
      (∃ fault, t.locate p = .error fault) ∧ ∃ fault, u.locate p = .error fault := by
  cases hplace : t.locate p with
  | ok place => exact .inl ⟨place, rfl, h.locate_of_not_meets ht hplace⟩
  | error fault =>
    cases hother : u.locate p with
    | ok place => simp [(h.symm.locate_of_not_meets hu hother).1] at hplace
    | error fault' => exact .inr ⟨⟨fault, rfl⟩, fault', rfl⟩

/-- A path that is resolved without meeting the place leads to the same entry in both trees. -/
theorem lookup?_of_not_meets {p : Path} {place : List String} (hp : ¬ t.Meets site p)
    (hplace : t.locate p = .ok place) : u.lookup? p = t.lookup? p := by
  obtain ⟨hlocate, hne⟩ := h.locate_of_not_meets hp hplace
  simp only [lookup?, hlocate, hplace, h.same.entry place hne]

theorem isFile_eq {p : Path} (ht : ¬ t.Meets site p) (hu : ¬ u.Meets site p) :
    u.isFile p = t.isFile p := by
  obtain ⟨place, hplace, -⟩ | ⟨⟨fault, hfault⟩, fault', hfault'⟩ := h.locate_cases ht hu
  · rw [isFile, isFile, h.lookup?_of_not_meets ht hplace]
  · simp only [isFile, lookup?, hfault, hfault']

theorem contentAt_eq {place : List String} (hplace : place ≠ site) :
    u.contentAt place = t.contentAt place := by
  rw [contentAt, contentAt, h.same.entry place hplace]

theorem readText_eq {p : Path} {place : List String} (hp : ¬ t.Meets site p)
    (hplace : t.locate p = .ok place) : u.readText p = t.readText p := by
  obtain ⟨hlocate, hne⟩ := h.locate_of_not_meets hp hplace
  simp only [readText, read, hlocate, hplace, bind, Except.bind, h.contentAt_eq hne]

/-- Where the place is a file or nothing, a path meets it exactly if it leads to it. -/
theorem meets_iff_locate (hsite : ∀ e, t.entry? site = some e → ∃ content, e = .file content)
    {p : Path} : t.Meets site p ↔ t.locate p = .ok site := by
  constructor
  · rintro ⟨start, hstart, ⟨place, hplace⟩, hover⟩
    obtain rfl := follow_of_leadsOver hsite hover hplace
    by_cases htext : p.text = ""
    · -- The empty path has one empty step, which looks at nothing.
      have hsteps : steps p.text = [""] := by rw [htext]; rfl
      rw [hsteps, leadsOver_cons_iff] at hover
      obtain ⟨-, hempty, -⟩ | ⟨q, hq, hlater⟩ := hover
      · exact absurd rfl hempty
      · unfold advance at hq
        split_ifs at hq with hdirectory hdot
        · cases hq
          exact absurd hlater not_leadsOver_nil
        · simp at hdot
        · simp at hdot
    · simp only [locate, hstart, htext, if_false, hplace]
  · intro hplace
    by_contra hmeets
    exact (h.locate_of_not_meets hmeets hplace).2 rfl

/-! ### What a walk gets to -/

theorem ignoreRules_eq {directory names : List String} (hdirectory : directory ≠ site)
    (ht : ¬ t.MeetsFrom site directory names) (hu : ¬ u.MeetsFrom site directory names) :
    u.ignoreRules directory names = t.ignoreRules directory names := by
  unfold ignoreRules
  cases hfile : t.follow false maxLinks directory names with
  | ok file =>
    obtain ⟨hfollow, hne⟩ := h.follow_of_not_meetsFrom hdirectory ht hfile
    simp only [hfollow, Except.bind, h.contentAt_eq hne]
  | error fault =>
    cases hother : u.follow false maxLinks directory names with
    | ok file => simp [(h.symm.follow_of_not_meetsFrom hdirectory hu hother).1] at hfile
    | error fault' => rfl

/-- What is on the way to something else is left out in both trees or in neither, if the ignore
files above it say the same. -/
theorem leavesOut_eq {p q : List String} (hq : t.entry? q ≠ none) (hne : q ≠ site) (hp : p <+: q)
    (hrules : ∀ directory, directory <+: p → directory ≠ p → ∀ names ∈ ignoreFiles,
      u.ignoreRules directory names = t.ignoreRules directory names) :
    u.leavesOut p = t.leavesOut p := by
  have hverdict : ∀ isDirectory, u.verdict? p isDirectory = t.verdict? p isDirectory := by
    intro isDirectory
    unfold verdict? verdictOfKind?
    refine findSome?_congr ?_
    intro names hnames
    refine findSome?_congr ?_
    rintro ⟨above, below⟩ habove
    obtain ⟨n, hn, heq⟩ := List.mem_map.1 habove
    cases heq
    have hshorter : p.take n ≠ p := by
      intro heq
      have hlength := congrArg List.length heq
      rw [List.mem_reverse, List.mem_range] at hn
      rw [List.length_take] at hlength
      omega
    simp only [hrules _ (List.take_prefix n p) hshorter names hnames]
  unfold leavesOut
  rw [h.same.entry p (h.ne_of_isPrefix hq hne hp), hverdict]

section Overlooked

variable {s : Settings} {root : Path} {output? : Option Path}
  (ht : t.Overlooks site s root output?) (hu : u.Overlooks site s root output?)

include ht hu

/-- Something else is admitted in both trees or in neither. -/
theorem admits_eq {place below : List String} (hplace : t.locate root = .ok place)
    (hdirectory : t.entry? place = some .directory) (hsome : t.entry? (place ++ below) ≠ none)
    (hne : place ++ below ≠ site) : u.admits place below = t.admits place below := by
  obtain ⟨hlocate, hnePlace⟩ := h.locate_of_not_meets ht.path hplace
  induction below using List.reverseRecOn with
  | nil => rfl
  | append_singleton names name ih =>
    have hstarts : place ++ names <+: place ++ (names ++ [name]) :=
      (List.prefix_append_right_inj place).2 (List.prefix_append names [name])
    have hadmits := ih (entry?_ne_none_of_isPrefix hsome hstarts)
      (h.ne_of_isPrefix hsome hne hstarts)
    rw [admits_concat, admits_concat, hadmits]
    cases hway : t.admits place names with
    | false => rfl
    | true =>
      rw [h.leavesOut_eq hsome hne (List.prefix_refl _)]
      intro directory hinitial hshorter ignored hignored
      -- The ignore files of a directory on the way are read in both trees.
      have habove : directory <+: place ++ names := by
        rw [← List.append_assoc] at hinitial hshorter
        exact (List.prefix_concat_iff.1 hinitial).resolve_left hshorter
      have hother : u.entry? place = some .directory :=
        (h.same.entry place hnePlace).trans hdirectory
      have henters : t.Enters root directory := ⟨place, names, hplace, hdirectory, hway, habove⟩
      have henters' : u.Enters root directory :=
        ⟨place, names, hlocate, hother, hadmits.trans hway, habove⟩
      exact h.ignoreRules_eq (h.ne_of_isPrefix hsome hne hinitial)
        (ht.ignoreFiles directory henters ignored hignored)
        (hu.ignoreFiles directory henters' ignored hignored)

/-- Apart from the place, a walk gets to the same in both trees. -/
theorem mem_walk_congr {place below : List String} (hplace : t.locate root = .ok place)
    (hdirectory : t.entry? place = some .directory) (hne : place ++ below ≠ site) :
    below ∈ u.walk place ↔ below ∈ t.walk place := by
  rw [mem_walk_iff, mem_walk_iff, h.same.entry _ hne]
  refine and_congr_right fun _ => and_congr_right fun _ => and_congr_right ?_
  rintro ⟨e, he, -⟩
  rw [h.admits_eq ht hu hplace hdirectory (by simp [he]) hne]

end Overlooked

/-! ### What is collected -/

omit h in
/-- A settings file in JSON is no source. -/
theorem not_isSupported {root : Path} (hroot : root.text ≠ "") {place below : List String}
    (hsome : below ≠ []) (hnames : ∀ name ∈ below, isName name = true)
    (hsite : (place ++ below).getLast? = some Settings.jsonName) :
    (pathBelow root below).isSupported = false := by
  rw [List.getLast?_append_of_ne_nil _ hsome] at hsite
  have hname : (pathBelow root below).fileName? = some Settings.jsonName.toList := by
    unfold Path.fileName?
    rw [components_pathBelow hroot hsome hnames,
      List.getLast?_append_of_ne_nil _ (by simpa using hsome), List.getLast?_map, hsite]
    rfl
  have hextension : Path.extensionOf? Settings.jsonName.toList = some "json".toList := by decide
  simp only [Path.isSupported, Path.extension?, hname, Option.bind_some, hextension]
  decide

section Overlooked

variable {s : Settings} {root : Path} {output? : Option Path} {globs : List (List Glob.Piece)}
  (hjson : site.getLast? = some Settings.jsonName) (hglobs : Exclude.parse s.exclude = .ok globs)
  (ht : t.Overlooks site s root output?) (hu : u.Overlooks site s root output?)

include hjson hglobs ht hu

/-- A source of the one tree is a source of the other. -/
theorem isSource_of {place below : List String} (hplace : t.locate root = .ok place)
    (hdirectory : t.entry? place = some .directory)
    (hsource : below ∈ t.walk place ∧ t.isSource globs root below = true) :
    below ∈ u.walk place ∧ u.isSource globs root below = true := by
  obtain ⟨hwalk, hsource⟩ := hsource
  have hfile := hsource
  simp only [isSource, Bool.and_eq_true] at hfile
  obtain ⟨⟨hfile, hsupported⟩, -⟩ := hfile
  have hne : place ++ below ≠ site := by
    intro heq
    obtain ⟨hsome, hnames⟩ := of_mem_walk hwalk
    rw [not_isSupported (text_ne_of_locate hplace) hsome hnames (heq ▸ hjson)] at hsupported
    cases hsupported
  refine ⟨(h.mem_walk_congr ht hu hplace hdirectory hne).2 hwalk, ?_⟩
  have hmem : pathBelow root below ∈ t.collectBelow globs root place := by
    rw [collectBelow, sourcesAmong, List.mem_mergeSort]
    exact List.mem_map_of_mem (List.mem_filter.2 ⟨hwalk, hsource⟩)
  have hmeets : ¬ t.Meets site (pathBelow root below) := by
    refine ht.sources globs _ hglobs ?_ _ hmem
    simp only [collect, hplace, hdirectory]
  obtain ⟨found, hfound⟩ := exists_locate_of_isFile hfile
  rwa [isSource, isFile, h.lookup?_of_not_meets hmeets hfound]

theorem collectBelow_eq {place : List String} (hplace : t.locate root = .ok place)
    (hdirectory : t.entry? place = some .directory) :
    u.collectBelow globs root place = t.collectBelow globs root place := by
  have htext := text_ne_of_locate hplace
  obtain ⟨hlocate, hne⟩ := h.locate_of_not_meets ht.path hplace
  have hother : u.entry? place = some .directory := (h.same.entry place hne).trans hdirectory
  have hsources : ((u.walk place).filter (u.isSource globs root)).Perm
      ((t.walk place).filter (t.isSource globs root)) := by
    rw [List.perm_ext_iff_of_nodup ((u.nodup_walk place).filter _) ((t.nodup_walk place).filter _)]
    intro below
    rw [List.mem_filter, List.mem_filter]
    exact ⟨h.symm.isSource_of hjson hglobs hu ht hlocate hother,
      h.isSource_of hjson hglobs ht hu hplace hdirectory⟩
  have hsorted : (u.collectBelow globs root place).Perm (t.collectBelow globs root place) :=
    (List.mergeSort_perm _ _).trans ((hsources.map _).trans (List.mergeSort_perm _ _).symm)
  -- Both lists are in order and have the same members.
  refine hsorted.eq_of_pairwise ?_
    (u.increasing_sourcesAmong globs root (u.nodup_key_walk htext place))
    (t.increasing_sourcesAmong globs root (t.nodup_key_walk htext place))
  intro p q _ _ hpq hqp
  exact absurd hqp (lt_asymm hpq)

/-- **The same files are collected in both trees.** -/
theorem collect_eq : u.collect globs root = t.collect globs root := by
  unfold collect
  obtain ⟨place, hplace, hlocate, hne⟩ | ⟨⟨fault, hfault⟩, fault', hfault'⟩ :=
    h.locate_cases ht.path hu.path
  · simp only [hplace, hlocate, h.same.entry place hne]
    split
    · rfl
    · next hdirectory => rw [h.collectBelow_eq hjson hglobs ht hu hplace hdirectory]
    · rfl
  · simp only [hfault, hfault']

/-- **The report on a path is the same in both trees.** -/
theorem ofPath_eq (a : Analysis) (durationMs : ℕ) :
    a.ofPath durationMs u globs root = a.ofPath durationMs t globs root := by
  unfold Analysis.ofPath
  rw [h.collect_eq hjson hglobs ht hu]
  cases hfiles : t.collect globs root with
  | error e => rfl
  | ok files =>
    have houtcomes : files.map (a.outcomeOfFile u) = files.map (a.outcomeOfFile t) := by
      refine List.map_congr_left ?_
      intro file hfile
      obtain ⟨place, hplace⟩ := exists_locate_of_mem_collect hfiles hfile
      rw [Analysis.outcomeOfFile, Analysis.outcomeOfFile, parseFile, parseFile,
        h.readText_eq (ht.sources globs files hglobs hfiles file hfile) hplace]
    simp only [Except.map, houtcomes]

end Overlooked

/-! ### What is written -/

theorem writesOver_iff {p : Path} : u.WritesOver site p ↔ t.WritesOver site p := by
  unfold WritesOver
  rw [h.same.workingDirectory, h.start?_eq]
  refine exists_congr fun start => and_congr_right fun hstart => ?_
  exact h.leadsOver_iff _ _ _ (h.ne_of_start? h.outside hstart)

theorem placeToWrite_eq {p : Path} (hp : ¬ t.WritesOver site p) :
    u.placeToWrite p = t.placeToWrite p ∧
      ∀ place, t.placeToWrite p = .ok place → place ≠ site := by
  have hsame : u.start? u.workingDirectory p.text = t.start? t.workingDirectory p.text := by
    rw [h.same.workingDirectory, h.start?_eq]
  cases hstart : t.start? t.workingDirectory p.text with
  | none => simp [placeToWrite, hsame, hstart]
  | some start =>
    by_cases htext : p.text = ""
    · simp [placeToWrite, start?, htext]
    rw [placeToWrite_eq_follow hstart htext, placeToWrite_eq_follow (hsame.trans hstart) htext]
    have hagrees := fun creating => h.agrees creating maxLinks start (stepsToWrite p)
      (h.ne_of_start? h.outside hstart) fun hover => hp ⟨start, hstart, hover⟩
    split_ifs
    · rw [(hagrees false).1]
      cases t.follow false maxLinks start (stepsToWrite p) <;> simp [Except.bind]
    · exact hagrees true

end Apart

end DeclaredDebt.FileTree
