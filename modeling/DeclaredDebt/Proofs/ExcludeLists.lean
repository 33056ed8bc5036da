import DeclaredDebt.Proofs.Merge

/-!
# Exclude patterns only take files away

A file below a directory is collected if no exclude pattern fits the names that lead to it from
there. Nothing else about the patterns matters: neither their order, nor how often one is given, nor
what another of them says. Two lists of patterns together therefore keep the files that each of them
keeps, and no pattern brings back a file that another one takes away.

## Main definitions

* `Path.stepsTo`, `Path.namesTo`: the way from a root to a path below it.
* `Exclude.fits`: whether a pattern fits the names that lead to a file.
* `FileTree.CollectsUnder`: the files collected below a path under some patterns.
-/

namespace DeclaredDebt

/-! ## The way from a root to a file -/

namespace Path

/-- The steps of a path behind those of a root. -/
def stepsTo (root p : Path) : List Component := p.components.drop root.components.length

/-- The step to a name. -/
def Component.ofName (name : String) : Component := .normal name.toList

/-- The name of a step. -/
def Component.name? : Component → Option String
  | .normal name => some (String.ofList name)
  | _ => none

/-- The names that lead from a root to a path. -/
def namesTo (root p : Path) : List String := (root.stepsTo p).filterMap Component.name?

end Path

namespace FileTree

theorem stepsTo_pathBelow {root : Path} (hroot : root.text ≠ "") {below : List String}
    (hne : below ≠ []) (h : ∀ name ∈ below, isName name = true) :
    root.stepsTo (pathBelow root below) = below.map Path.Component.ofName := by
  rw [Path.stepsTo, components_pathBelow hroot hne h, List.drop_left]
  rfl

/-- The names from a root to a path below it are those the path was made of. -/
theorem namesTo_pathBelow {root : Path} (hroot : root.text ≠ "") {below : List String}
    (hne : below ≠ []) (h : ∀ name ∈ below, isName name = true) :
    root.namesTo (pathBelow root below) = below := by
  have hname : Path.Component.name? ∘ Path.Component.ofName = some := by
    funext name
    simp [Path.Component.name?, Path.Component.ofName]
  rw [Path.namesTo, stepsTo_pathBelow hroot hne h, List.filterMap_map, hname, List.filterMap_some]

end FileTree

/-! ## Lists of patterns -/

namespace Exclude

/-- Whether a pattern fits the names that lead to a file; one that cannot be used fits none. -/
def fits (pattern : String) (names : List String) : Bool :=
  (parsePattern pattern).toOption.any fun glob => excludes [glob] names

/-- Patterns that can be used. -/
def Usable (patterns : List String) : Prop := ∃ globs, parse patterns = .ok globs

theorem parse_cons (pattern : String) (patterns : List String) :
    parse (pattern :: patterns) =
      (parsePattern pattern).bind fun glob => (parse patterns).map (glob :: ·) := by
  rw [parse, List.mapM_cons]
  rfl

theorem exists_error_iff (patterns : List String) :
    (∃ e, parse patterns = .error e) ↔ ¬ Usable patterns := by
  rw [Usable]
  cases parse patterns <;> simp

/-- Patterns can be used if each of them can. -/
theorem usable_iff (patterns : List String) :
    Usable patterns ↔ ∀ pattern ∈ patterns, ∃ glob, parsePattern pattern = .ok glob := by
  induction patterns with
  | nil => exact ⟨by simp, fun _ => ⟨[], rfl⟩⟩
  | cons pattern patterns ih =>
    rw [List.forall_mem_cons, ← ih, Usable, Usable, parse_cons]
    cases parsePattern pattern with
    | error e => simp [Except.bind]
    | ok glob => cases parse patterns <;> simp [Except.bind, Except.map]

theorem usable_append (first second : List String) :
    Usable (first ++ second) ↔ Usable first ∧ Usable second := by
  simp only [usable_iff, List.forall_mem_append]

@[simp] theorem excludes_nil (names : List String) : excludes [] names = false := rfl

theorem excludes_cons (glob : List Glob.Piece) (globs : List (List Glob.Piece))
    (names : List String) :
    excludes (glob :: globs) names = (excludes [glob] names || excludes globs names) := by
  simp [excludes]

/-- **A list of patterns takes away what one of them fits.** -/
theorem excludes_of_parse {patterns : List String} {globs : List (List Glob.Piece)}
    (h : parse patterns = .ok globs) (names : List String) :
    excludes globs names = patterns.any (fits · names) := by
  induction patterns generalizing globs with
  | nil =>
    cases h
    rfl
  | cons pattern patterns ih =>
    rw [parse_cons] at h
    cases hpattern : parsePattern pattern with
    | error e => simp [hpattern, Except.bind] at h
    | ok glob =>
      cases hpatterns : parse patterns with
      | error e => simp [hpattern, hpatterns, Except.bind, Except.map] at h
      | ok globs' =>
        simp only [hpattern, hpatterns, Except.bind, Except.map, Except.ok.injEq] at h
        have hfits : fits pattern names = excludes [glob] names := by
          rw [fits, hpattern, Except.toOption, Option.any]
        rw [← h, excludes_cons, ih hpatterns, List.any_cons, hfits]

end Exclude

/-! ## Collecting under patterns -/

namespace FileTree

/-- The files collected below a path under some exclude patterns. -/
def CollectsUnder (t : FileTree) (patterns : List String) (root : Path) (files : List Path) :
    Prop :=
  ∃ globs, Exclude.parse patterns = .ok globs ∧ t.collect globs root = .ok files

/-- Leaving out what is excluded can wait until the sources are sorted. -/
theorem sourcesAmong_eq_filter (t : FileTree) (globs : List (List Glob.Piece)) {root : Path}
    (hroot : root.text ≠ "") {found : List (List String)}
    (hfound : ∀ below ∈ found, below ≠ [] ∧ ∀ name ∈ below, isName name = true) :
    t.sourcesAmong globs root found =
      (t.sourcesAmong [] root found).filter
        fun file => !Exclude.excludes globs (root.namesTo file) := by
  rw [sourcesAmong, sourcesAmong, Path.sortOrder_le.filter_mergeSort, List.filter_map,
    List.filter_filter]
  congr 2
  -- The names of a find can be read back off its path, so the test on paths is the one on names.
  refine List.filter_congr ?_
  intro below hbelow
  obtain ⟨hne, hnames⟩ := hfound below hbelow
  rw [Function.comp_apply, namesTo_pathBelow hroot hne hnames]
  simp only [isSource, Exclude.excludes_nil, Bool.not_false, Bool.and_true]
  exact Bool.and_comm _ _

theorem isDirectory_iff (t : FileTree) (root : Path) :
    t.isDirectory root = true ↔
      ∃ place, t.locate root = .ok place ∧ t.entry? place = some .directory := by
  unfold isDirectory lookup?
  cases t.locate root with
  | error fault => simp
  | ok place => cases hentry : t.entry? place with
    | none => simp [hentry]
    | some entry => cases entry <;> simp [hentry]

/-- **Excludes only filter** what is collected below a directory without them. -/
theorem exists_collect_eq_filter {t : FileTree} {root : Path} (hroot : t.isDirectory root = true) :
    ∃ files : List Path, ∀ globs, t.collect globs root =
      .ok (files.filter fun file => !Exclude.excludes globs (root.namesTo file)) := by
  obtain ⟨place, hplace, hentry⟩ := (t.isDirectory_iff root).1 hroot
  refine ⟨t.collectBelow [] root place, ?_⟩
  intro globs
  simp only [collect, hplace, hentry, Except.ok.injEq]
  exact t.sourcesAmong_eq_filter globs (text_ne_of_locate hplace) fun below => of_mem_walk

/-- What is collected below a directory under some patterns: what no pattern fits, if the patterns
can be used. -/
theorem exists_collectsUnder_iff {t : FileTree} {root : Path} (hroot : t.isDirectory root = true) :
    ∃ files, t.collect [] root = .ok files ∧ ∀ patterns kept,
      t.CollectsUnder patterns root kept ↔ Exclude.Usable patterns ∧
        kept = files.filter fun file => !patterns.any (Exclude.fits · (root.namesTo file)) := by
  obtain ⟨files, hfiles⟩ := exists_collect_eq_filter hroot
  refine ⟨files, by simpa using hfiles [], ?_⟩
  intro patterns kept
  constructor
  · rintro ⟨globs, hglobs, hkept⟩
    rw [hfiles, Except.ok.injEq] at hkept
    refine ⟨⟨globs, hglobs⟩, ?_⟩
    rw [← hkept]
    simp only [Exclude.excludes_of_parse hglobs]
  · rintro ⟨⟨globs, hglobs⟩, rfl⟩
    refine ⟨globs, hglobs, ?_⟩
    rw [hfiles]
    simp only [Exclude.excludes_of_parse hglobs]

end FileTree

/-- Of entries that pass one test, those among the entries that pass another test are those that
pass both. -/
theorem filter_mem_filter {α : Type} [DecidableEq α] (p q : α → Bool) (l : List α) :
    (l.filter p).filter (fun x => decide (x ∈ l.filter q)) = l.filter fun x => p x && q x := by
  rw [List.filter_filter]
  refine List.filter_congr ?_
  intro x hx
  simp [hx, Bool.and_comm]

namespace FileTree

/-- **Patterns only take files away.** Two lists of patterns together can be used iff each of them
can, and then they keep below a directory the files that both of them keep, in the same order. The
same patterns in another order, or some of them more than once, keep the same files. Whatever
patterns are added, also overlapping ones or such with an exclamation mark, no file is added, so
that none comes back. -/
theorem joined_patterns_keep_common_files (t : FileTree) (root : Path)
    (hroot : t.isDirectory root = true) (first second : List String) :
    ((∃ e, Exclude.parse (first ++ second) = .error e) ↔
      (∃ e, Exclude.parse first = .error e) ∨ ∃ e, Exclude.parse second = .error e) ∧
    (∀ globs, Exclude.parse (first ++ second) = .ok globs → ∃ files files',
      t.CollectsUnder first root files ∧ t.CollectsUnder second root files' ∧
      t.collect globs root = .ok (files.filter (· ∈ files')) ∧
      files.filter (· ∈ files') = files'.filter (· ∈ files)) ∧
    (∀ others, (∀ pattern, pattern ∈ others ↔ pattern ∈ first) →
      ((∃ e, Exclude.parse others = .error e) ↔ ∃ e, Exclude.parse first = .error e) ∧
      ∀ files, t.CollectsUnder others root files ↔ t.CollectsUnder first root files) ∧
    ∀ files kept, t.CollectsUnder first root files →
      t.CollectsUnder (first ++ second) root kept → kept.Sublist files := by
  obtain ⟨all, -, hcollects⟩ := exists_collectsUnder_iff hroot
  refine ⟨?_, ?_, ?_, ?_⟩
  · simp only [Exclude.exists_error_iff, Exclude.usable_append]
    tauto
  · intro globs hglobs
    obtain ⟨hfirst, hsecond⟩ := (Exclude.usable_append first second).1 ⟨globs, hglobs⟩
    refine ⟨_, _, (hcollects first _).2 ⟨hfirst, rfl⟩, (hcollects second _).2 ⟨hsecond, rfl⟩,
      ?_, ?_⟩
    · obtain ⟨globs', hglobs', hkept⟩ := (hcollects (first ++ second) _).2 ⟨⟨globs, hglobs⟩, rfl⟩
      cases hglobs.symm.trans hglobs'
      rw [hkept, filter_mem_filter]
      simp only [List.any_append, Bool.not_or]
    · rw [filter_mem_filter, filter_mem_filter]
      simp only [Bool.and_comm]
  · intro others hothers
    have husable : Exclude.Usable others ↔ Exclude.Usable first := by
      simp only [Exclude.usable_iff, hothers]
    have hany : ∀ names, others.any (Exclude.fits · names) = first.any (Exclude.fits · names) := by
      intro names
      rw [Bool.eq_iff_iff, List.any_eq_true, List.any_eq_true]
      simp only [hothers]
    refine ⟨by simp only [Exclude.exists_error_iff, husable], ?_⟩
    intro files
    simp only [hcollects, husable, hany]
  · intro files kept hfiles hkept
    rw [((hcollects _ _).1 hfiles).2, ((hcollects _ _).1 hkept).2]
    refine List.monotone_filter_right all ?_
    intro file
    simp only [List.any_append, Bool.not_or, Bool.and_eq_true]
    exact And.left

/-- A pattern for a file below an excluded directory, with an exclamation mark in front, does not
bring the file back, and to give the directory twice changes nothing. -/
theorem mixedTree_brings_nothing_back :
    (∃ globs, Exclude.parse ["src/", "!src/b.cs"] = .ok globs ∧
      mixedTree.collect globs ⟨"."⟩ = .ok [⟨"./a.cs"⟩]) ∧
    mixedTree.CollectsUnder ["src/", "src/"] ⟨"."⟩ [⟨"./a.cs"⟩] := by
  have hroot : mixedTree.isDirectory ⟨"."⟩ = true := by decide
  obtain ⟨-, hboth, hsame, -⟩ :=
    joined_patterns_keep_common_files mixedTree ⟨"."⟩ hroot ["src/"] ["!src/b.cs"]
  obtain ⟨globs, hglobs⟩ : Exclude.Usable ["src/", "!src/b.cs"] := ⟨_, rfl⟩
  obtain ⟨files, files', hfiles, hfiles', hkept, -⟩ := hboth globs hglobs
  obtain ⟨all, hall, hcollects⟩ := exists_collectsUnder_iff hroot
  cases collect_mixedTree.symm.trans hall
  constructor
  · obtain ⟨-, rfl⟩ := (hcollects _ _).1 hfiles
    obtain ⟨-, rfl⟩ := (hcollects _ _).1 hfiles'
    exact ⟨globs, hglobs, hkept.trans (by decide +kernel)⟩
  · rw [(hsame ["src/", "src/"] (by simp)).2, hcollects]
    exact ⟨⟨_, rfl⟩, by decide +kernel⟩

end FileTree

end DeclaredDebt
