import DeclaredDebt.Proofs.ExcludeLists
import DeclaredDebt.Proofs.GlobMatching

/-!
# Patterns without wildcards

A pattern that is just names with slashes between them means one of two things. With a slash at its
end it is a directory, found by its names from the analysed one on, and takes away everything below
it. Without a slash it is the name of files, and takes these away at any depth. Names count as a
whole: a directory does not take away another one whose name starts with its own. Since the glob
sees only the way from the analysed directory to a file, it does not matter how that directory is
written.

## Main definitions

* `Exclude.PlainName`: a name that a pattern can hold as it is.
* `Exclude.PlainPattern`: a directory, or a file name, as a pattern; `PlainPattern.text` writes it
  with any number of `./` in front.
* `PlainPattern.Covers`: what a pattern takes away, by the steps that lead to it.
-/

namespace DeclaredDebt

/-! ## Joined names -/

namespace FileTree

theorem ne_nil_of_isName {name : String} (h : isName name = true) : name.toList ≠ [] :=
  ((isName_iff name).1 h).1

theorem slash_notMem_of_isName {name : String} (h : isName name = true) : '/' ∉ name.toList :=
  ((isName_iff name).1 h).2.2.2

theorem toList_slash_intercalate_append {names more : List String} (hnames : names ≠ [])
    (hmore : more ≠ []) :
    ("/".intercalate (names ++ more)).toList =
      ("/".intercalate names).toList ++ '/' :: ("/".intercalate more).toList := by
  rw [String.intercalate_append_of_ne_nil hnames hmore]
  simp

variable {names below : List String}

/-- Joined names start with other joined names and a slash iff they start with these names and go
on. -/
theorem exists_intercalate_eq_append_slash_iff (hnames : names ≠ [])
    (hplain : ∀ name ∈ names, isName name = true) (hne : below ≠ [])
    (hbelow : ∀ name ∈ below, isName name = true) :
    (∃ rest, ("/".intercalate below).toList = ("/".intercalate names).toList ++ '/' :: rest) ↔
      names <+: below ∧ names.length < below.length := by
  constructor
  · rintro ⟨rest, htext⟩
    have hpieces := congrArg Path.pieces htext
    rw [pieces_intercalate hne hbelow, Path.pieces_append_slash,
      pieces_intercalate hnames hplain] at hpieces
    have hlength := congrArg List.length hpieces
    have hrest := List.length_pos_iff.2 (Path.pieces_ne_nil rest)
    simp only [List.length_map, List.length_append] at hlength
    refine ⟨?_, by omega⟩
    rw [← List.prefix_map_iff_of_injective fun _ _ => String.toList_inj.1, hpieces]
    exact List.prefix_append _ _
  · rintro ⟨⟨more, rfl⟩, hlength⟩
    have hmore : more ≠ [] := by
      rintro rfl
      simp at hlength
    exact ⟨_, toList_slash_intercalate_append hnames hmore⟩

/-- Joined names are a name, or end with a slash and a name, iff it is the last of them. -/
theorem intercalate_eq_or_exists_append_slash_iff {name : String} (hname : isName name = true)
    (hne : below ≠ []) (hbelow : ∀ name ∈ below, isName name = true) :
    (("/".intercalate below).toList = name.toList ∨
        ∃ before, ("/".intercalate below).toList = before ++ '/' :: name.toList) ↔
      below.getLast? = some name := by
  have hslash := slash_notMem_of_isName hname
  constructor
  · intro htext
    have hlast : (Path.pieces ("/".intercalate below).toList).getLast? = some name.toList := by
      rcases htext with htext | ⟨before, htext⟩
      · rw [htext, Path.pieces_of_notMem hslash]
        rfl
      · rw [htext, Path.pieces_append_slash, Path.pieces_of_notMem hslash, List.getLast?_concat]
    rw [pieces_intercalate hne hbelow, List.getLast?_map, Option.map_eq_some_iff] at hlast
    obtain ⟨last, hlast, heq⟩ := hlast
    rw [hlast, String.toList_inj.1 heq]
  · intro hlast
    obtain ⟨front, rfl⟩ := List.getLast?_eq_some_iff.1 hlast
    by_cases hfront : front = []
    · subst hfront
      exact .inl (by simp)
    · have happend := toList_slash_intercalate_append hfront (List.cons_ne_nil name [])
      rw [String.intercalate_singleton] at happend
      exact .inr ⟨_, happend⟩

end FileTree

/-! ## Plain patterns -/

namespace Exclude

/-- A name that a pattern can hold as it is: no character of it stands for others. -/
structure PlainName where
  text : String
  isName : FileTree.isName text = true
  plain : ∀ c ∈ text.toList, Glob.Plain c

/-- A pattern without wildcards. -/
inductive PlainPattern where
  /-- Everything below a directory, which is given by the names that lead to it. -/
  | directory (first : PlainName) (more : List PlainName)
  /-- The files of a name, at any depth. -/
  | file (name : PlainName)

namespace PlainName

/-- The names that lead to a directory. -/
def path (first : PlainName) (more : List PlainName) : List String := (first :: more).map (·.text)

theorem path_ne_nil (first : PlainName) (more : List PlainName) : path first more ≠ [] :=
  List.cons_ne_nil _ _

theorem isName_of_mem_path {first : PlainName} {more : List PlainName} :
    ∀ name ∈ path first more, FileTree.isName name = true := by
  intro name h
  obtain ⟨plainName, -, rfl⟩ := List.mem_map.1 h
  exact plainName.isName

/-- Plain names joined by slashes are plain. -/
theorem plain_intercalate_path (first : PlainName) (more : List PlainName) :
    ∀ c ∈ ("/".intercalate (path first more)).toList, Glob.Plain c := by
  induction more generalizing first with
  | nil => simpa [path] using first.plain
  | cons second more ih =>
    have hslash : ∀ c ∈ "/".toList, Glob.Plain c := by
      have hlist : "/".toList = ['/'] := rfl
      rw [hlist, List.forall_mem_singleton]
      decide
    have hsplit : "/".intercalate (path first (second :: more)) =
        first.text ++ "/" ++ "/".intercalate (path second more) :=
      String.intercalate_cons_of_ne_nil (path_ne_nil second more)
    rw [hsplit, String.toList_append, String.toList_append, List.forall_mem_append,
      List.forall_mem_append]
    exact ⟨⟨first.plain, hslash⟩, ih second⟩

/-- The names of a directory do not start with a dot step. -/
theorem intercalate_path_ne_dots (first : PlainName) (more : List PlainName) (rest : List Char) :
    ("/".intercalate (path first more)).toList ++ ['/'] ≠ '.' :: '/' :: rest := by
  intro htext
  have hpieces := congrArg Path.pieces htext
  have hdot : Path.pieces ('.' :: '/' :: rest) = ['.'] :: Path.pieces rest :=
    Path.pieces_append_slash ['.'] rest
  rw [Path.pieces_append_slash, hdot,
    FileTree.pieces_intercalate (path_ne_nil first more) isName_of_mem_path] at hpieces
  exact ((FileTree.isName_iff first.text).1 first.isName).2.1 (List.cons.inj hpieces).1

end PlainName

namespace PlainPattern

/-- The pattern itself, with as many `./` in front as asked for. -/
def text (dots : ℕ) : PlainPattern → String
  | .directory first more => ("./" ++ ·)^[dots] ("/".intercalate (PlainName.path first more) ++ "/")
  | .file name => ("./" ++ ·)^[dots] name.text

/-- What a pattern takes away, by the steps that lead to it: what is below the directory, or has the
name. -/
def Covers : PlainPattern → List Path.Component → Prop
  | .directory first more, steps =>
    (PlainName.path first more).map .ofName <+: steps ∧
      (PlainName.path first more).length < steps.length
  | .file name, steps => steps.getLast? = some (.ofName name.text)

instance (p : PlainPattern) (steps : List Path.Component) : Decidable (p.Covers steps) :=
  match p with
  | .directory _ _ => inferInstanceAs (Decidable (_ ∧ _))
  | .file _ => inferInstanceAs (Decidable (_ = _))

/-- The glob for everything below a directory, or for a name at any depth. -/
def glob : PlainPattern → List Glob.Piece
  | .directory first more =>
    ("/".intercalate (PlainName.path first more)).toList.map .literal ++ [.anyEnd]
  | .file name => .anyStart :: name.text.toList.map .literal

end PlainPattern

/-! ## Reading plain patterns -/

theorem dropDots_of_ne {text : List Char} (h : ∀ rest, text ≠ '.' :: '/' :: rest) :
    dropDots text = text := by
  rw [dropDots]
  exact h

/-- Any number of `./` in front means nothing. -/
theorem dropDots_iterate (dots : ℕ) (text : String) :
    dropDots (("./" ++ ·)^[dots] text).toList = dropDots text.toList := by
  induction dots with
  | zero => rfl
  | succ dots ih =>
    have hdots : "./".toList = ['.', '/'] := rfl
    rw [Function.iterate_succ_apply', String.toList_append, hdots]
    exact ih

/-- A pattern with a slash at its end asks for everything below. -/
theorem globText_of_slash (dots : ℕ) {text : String}
    (hdots : ∀ rest, text.toList ++ ['/'] ≠ '.' :: '/' :: rest) :
    globText (("./" ++ ·)^[dots] (text ++ "/")) =
      String.ofList (text.toList ++ ['/', '*', '*']) := by
  have hslash : (text ++ "/").toList = text.toList ++ ['/'] := String.toList_append
  rw [globText, dropDots_iterate, hslash, dropDots_of_ne hdots]
  simp

/-- A pattern without a slash fits at any depth. -/
theorem globText_of_notMem (dots : ℕ) {text : String} (hslash : '/' ∉ text.toList) :
    globText (("./" ++ ·)^[dots] text) = String.ofList ('*' :: '*' :: '/' :: text.toList) := by
  have hdots : ∀ rest, text.toList ≠ '.' :: '/' :: rest := by
    rintro rest htext
    simp [htext] at hslash
  have hlast : text.toList.getLast? ≠ some '/' := fun h => hslash (List.mem_of_getLast? h)
  rw [globText, dropDots_iterate, dropDots_of_ne hdots]
  simp [hlast, hslash]

namespace PlainPattern

/-- **A plain pattern can be used**, with or without `./` in front. -/
theorem parsePattern_text (p : PlainPattern) (dots : ℕ) :
    parsePattern (p.text dots) = .ok p.glob := by
  cases p with
  | directory first more =>
    rw [parsePattern, text, globText_of_slash dots (PlainName.intercalate_path_ne_dots first more),
      Glob.parse_below (PlainName.plain_intercalate_path first more)]
    rfl
  | file name =>
    rw [parsePattern, text,
      globText_of_notMem dots (FileTree.slash_notMem_of_isName name.isName),
      Glob.parse_anyDepth name.plain]
    rfl

/-- **A plain pattern fits what it covers**, and nothing else. -/
theorem fits_text_iff (p : PlainPattern) (dots : ℕ) {below : List String} (hne : below ≠ [])
    (hbelow : ∀ name ∈ below, FileTree.isName name = true) :
    fits (p.text dots) below = true ↔ p.Covers (below.map .ofName) := by
  have hinj : Function.Injective Path.Component.ofName := by
    intro name name' h
    exact String.toList_inj.1 (Path.Component.normal.inj h)
  rw [fits, parsePattern_text, Except.toOption, Option.any]
  simp only [excludes, List.any_cons, List.any_nil, Bool.or_false]
  cases p with
  | directory first more =>
    rw [glob, Glob.matchesBytes_below, FileTree.exists_intercalate_eq_append_slash_iff
      (PlainName.path_ne_nil first more) PlainName.isName_of_mem_path hne hbelow, Covers,
      List.prefix_map_iff_of_injective hinj, List.length_map]
  | file name =>
    rw [glob, Glob.matchesBytes_anyDepth true (FileTree.ne_nil_of_isName name.isName),
      FileTree.intercalate_eq_or_exists_append_slash_iff name.isName hne hbelow, Covers,
      List.getLast?_map]
    exact ((Option.map_injective hinj).eq_iff (b := some name.text)).symm

end PlainPattern

end Exclude

/-! ## Collecting under a plain pattern -/

namespace FileTree

/-- The files collected below a directory are its own path with names behind it. -/
theorem exists_names_of_mem_collect {t : FileTree} {globs : List (List Glob.Piece)} {root : Path}
    (hroot : t.isDirectory root = true) {files : List Path} (h : t.collect globs root = .ok files)
    {file : Path} (hfile : file ∈ files) :
    ∃ below, below ≠ [] ∧ (∀ name ∈ below, isName name = true) ∧ file = pathBelow root below := by
  obtain ⟨place, hplace, hentry⟩ := (t.isDirectory_iff root).1 hroot
  simp only [collect, hplace, hentry, Except.ok.injEq] at h
  rw [← h, collectBelow, sourcesAmong, List.mem_mergeSort, List.mem_map] at hfile
  obtain ⟨below, hbelow, rfl⟩ := hfile
  obtain ⟨hne, hnames⟩ := of_mem_walk (List.mem_filter.1 hbelow).1
  exact ⟨below, hne, hnames, rfl⟩

/-- **A plain pattern takes away exactly what it covers.** Whatever the tree and however its
directory is written, the files collected without excludes have the steps of that directory and then
their own, and the pattern takes away those whose own steps it covers. -/
theorem plain_pattern_takes_away_covered (p : Exclude.PlainPattern) (dots : ℕ) :
    ∃ globs, Exclude.parse [p.text dots] = .ok globs ∧
      ∀ (t : FileTree) (root : Path), t.isDirectory root = true →
        ∃ files, t.collect [] root = .ok files ∧
          (∀ file ∈ files, ∃ own, own ≠ [] ∧ file.components = root.components ++ own) ∧
          t.collect globs root = .ok (files.filter fun file => ¬ p.Covers (root.stepsTo file)) := by
  have hparse : Exclude.parse [p.text dots] = .ok [p.glob] := by
    rw [Exclude.parse_cons, p.parsePattern_text]
    rfl
  refine ⟨_, hparse, ?_⟩
  intro t root hroot
  obtain ⟨files, hfiles⟩ := exists_collect_eq_filter hroot
  have hall : t.collect [] root = .ok files := by simpa using hfiles []
  obtain ⟨place, hplace, -⟩ := (t.isDirectory_iff root).1 hroot
  have hne := text_ne_of_locate hplace
  refine ⟨files, hall, ?_, ?_⟩
  · intro file hfile
    obtain ⟨below, hbelow, hnames, rfl⟩ := exists_names_of_mem_collect hroot hall hfile
    exact ⟨_, by simpa using hbelow, components_pathBelow hne hbelow hnames⟩
  · rw [hfiles, Except.ok.injEq]
    refine List.filter_congr ?_
    intro file hfile
    obtain ⟨below, hbelow, hnames, rfl⟩ := exists_names_of_mem_collect hroot hall hfile
    rw [Exclude.excludes_of_parse hparse, List.any_cons, List.any_nil, Bool.or_false,
      namesTo_pathBelow hne hbelow hnames, stepsTo_pathBelow hne hbelow hnames]
    simp [← p.fits_text_iff dots hbelow hnames]

/-- A tree in which names start with other names and come back at another depth. -/
def nestedTree : FileTree where
  entries := [(["a.cs"], .file []), (["lib", "src", "a.cs"], .file []), (["src", "b.cs"], .file []),
    (["src2", "c.cs"], .file [])]

theorem collect_nestedTree :
    nestedTree.collect [] ⟨"lib/.."⟩ = .ok [⟨"lib/../a.cs"⟩, ⟨"lib/../lib/src/a.cs"⟩,
      ⟨"lib/../src/b.cs"⟩, ⟨"lib/../src2/c.cs"⟩] := by
  have hplace : nestedTree.locate ⟨"lib/.."⟩ = .ok [] := by decide
  have hentry : nestedTree.entry? [] = some .directory := by decide
  have hfound : ((nestedTree.walk []).filter (nestedTree.isSource [] ⟨"lib/.."⟩)).map
      (pathBelow ⟨"lib/.."⟩) = [⟨"lib/../a.cs"⟩, ⟨"lib/../lib/src/a.cs"⟩, ⟨"lib/../src/b.cs"⟩,
        ⟨"lib/../src2/c.cs"⟩] := by decide +kernel
  simp only [collect, hplace, hentry, collectBelow, sourcesAmong, hfound]
  rw [List.mergeSort_of_pairwise (by decide +kernel)]

/-- The directory `src` as a pattern. -/
def srcPattern : Exclude.PlainPattern := .directory ⟨"src", by decide, by simp [Glob.Plain]⟩ []

/-- The file name `a.cs` as a pattern. -/
def namePattern : Exclude.PlainPattern := .file ⟨"a.cs", by decide, by simp [Glob.Plain]⟩

/-- A directory takes away what is below it, and neither a directory whose name is longer nor one of
its name at another depth; a file name takes away its files at every depth. -/
theorem nestedTree_loses_covered :
    (∃ globs, Exclude.parse ["././src/"] = .ok globs ∧
      nestedTree.collect globs ⟨"lib/.."⟩ = .ok [⟨"lib/../a.cs"⟩, ⟨"lib/../lib/src/a.cs"⟩,
        ⟨"lib/../src2/c.cs"⟩]) ∧
    ∃ globs, Exclude.parse ["a.cs"] = .ok globs ∧
      nestedTree.collect globs ⟨"lib/.."⟩ = .ok [⟨"lib/../src/b.cs"⟩, ⟨"lib/../src2/c.cs"⟩] := by
  have hroot : nestedTree.isDirectory ⟨"lib/.."⟩ = true := by decide
  constructor
  · obtain ⟨globs, hglobs, hcollect⟩ := plain_pattern_takes_away_covered srcPattern 2
    obtain ⟨files, hfiles, -, hkept⟩ := hcollect nestedTree ⟨"lib/.."⟩ hroot
    cases collect_nestedTree.symm.trans hfiles
    exact ⟨globs, hglobs, hkept.trans (by decide +kernel)⟩
  · obtain ⟨globs, hglobs, hcollect⟩ := plain_pattern_takes_away_covered namePattern 0
    obtain ⟨files, hfiles, -, hkept⟩ := hcollect nestedTree ⟨"lib/.."⟩ hroot
    cases collect_nestedTree.symm.trans hfiles
    exact ⟨globs, hglobs, hkept.trans (by decide +kernel)⟩

end FileTree

end DeclaredDebt
