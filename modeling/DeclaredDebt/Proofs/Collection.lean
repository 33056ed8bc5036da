import DeclaredDebt.Proofs.Order

/-!
# Collected files are strictly increasing

A walk from a directory yields names, and the path of what it found is the root with these names
behind it. Such a path has the steps of the root followed by one step for each name, so two
different finds have different keys. Sorted by their keys, the collected files are therefore
strictly increasing, in whatever order the walk came upon them.

## Main definitions

* `Path.Increasing`: a list of paths in which every key is below the next.
-/

namespace DeclaredDebt

namespace Path

/-! ## Pieces and steps of a joined text -/

@[simp] theorem pieces_nil : pieces [] = [[]] := rfl

@[simp] theorem pieces_slash (rest : List Char) : pieces ('/' :: rest) = [] :: pieces rest := rfl

theorem pieces_ne_nil (text : List Char) : pieces text ≠ [] := by
  fun_induction pieces text <;> simp

/-- A character other than a slash goes to the front of the first piece. -/
theorem pieces_cons {c : Char} (hc : c ≠ '/') {rest piece : List Char} {more : List (List Char)}
    (h : pieces rest = piece :: more) : pieces (c :: rest) = (c :: piece) :: more := by
  rw [pieces, h]
  exact hc

/-- A slash between two texts separates their pieces. -/
theorem pieces_append_slash (text rest : List Char) :
    pieces (text ++ '/' :: rest) = pieces text ++ pieces rest := by
  induction text with
  | nil => rfl
  | cons c text ih =>
    by_cases hc : c = '/'
    · subst hc
      simp [ih]
    · obtain ⟨piece, more, hpieces⟩ := List.exists_cons_of_ne_nil (pieces_ne_nil text)
      rw [List.cons_append, pieces_cons hc hpieces]
      rw [hpieces, List.cons_append] at ih
      rw [pieces_cons hc ih, List.cons_append]

/-- A text without a slash is one piece. -/
theorem pieces_of_notMem {text : List Char} (h : '/' ∉ text) : pieces text = [text] := by
  induction text with
  | nil => rfl
  | cons c text ih =>
    rw [List.mem_cons, not_or] at h
    exact pieces_cons (Ne.symm h.1) (ih h.2)

/-- What a text starts with does not change when a slash and more is put behind it. -/
theorem start_append_slash {text : List Char} (h : text ≠ []) (rest : List Char) :
    start (text ++ '/' :: rest) = start text := by
  cases text with
  | nil => exact absurd rfl h
  | cons c text =>
    cases text with
    | nil =>
      rw [List.cons_append, List.nil_append]
      unfold start
      grind
    | cons d text =>
      rw [List.cons_append, List.cons_append]
      unfold start
      grind

theorem componentsOf_append_slash {text : List Char} (h : text ≠ []) (rest : List Char) :
    componentsOf (text ++ '/' :: rest) = componentsOf text ++ (pieces rest).filterMap step? := by
  simp only [componentsOf, start_append_slash h, pieces_append_slash, List.filterMap_append,
    List.append_assoc]

/-- Behind a slash that is already there, more pieces follow just the same. -/
theorem componentsOf_slash_append (text rest : List Char) :
    componentsOf (text ++ '/' :: rest) =
      componentsOf (text ++ ['/']) ++ (pieces rest).filterMap step? := by
  have hstart : start (text ++ '/' :: rest) = start (text ++ ['/']) := by
    by_cases h : text = []
    · subst h
      rfl
    · rw [start_append_slash h, start_append_slash h]
  have hempty : [([] : List Char)].filterMap step? = [] := rfl
  simp only [componentsOf, hstart, pieces_append_slash, List.filterMap_append, pieces_nil, hempty,
    List.append_nil, List.append_assoc]

/-- A relative text behind a directory adds its own steps to those of the directory. -/
theorem components_join {dir : Path} (hdir : dir.text ≠ "") {name : String}
    (hname : name.toList.head? ≠ some '/') :
    (dir.join name).components = dir.components ++ (pieces name.toList).filterMap step? := by
  have hne : dir.text.toList ≠ [] := by simpa using hdir
  unfold join
  rw [if_neg hname, if_neg hdir]
  split
  · next hlast =>
    obtain ⟨text, htext⟩ := List.getLast?_eq_some_iff.1 hlast
    simp only [components, String.toList_append, htext, List.append_assoc, List.singleton_append]
    exact componentsOf_slash_append text name.toList
  · have hslash : "/".toList = ['/'] := rfl
    simp only [components, String.toList_append, hslash, List.append_assoc, List.singleton_append]
    exact componentsOf_append_slash hne name.toList

end Path

/-! ## Paths below a root -/

namespace FileTree

/-- A name is a piece of its own and stands for a step. -/
theorem isName_iff (name : String) :
    isName name = true ↔ name.toList ≠ [] ∧ name.toList ≠ ['.'] ∧ name.toList ≠ ['.', '.'] ∧
      '/' ∉ name.toList := by
  have hdot : name = "." ↔ name.toList = ['.'] := String.toList_inj.symm
  have hdots : name = ".." ↔ name.toList = ['.', '.'] := String.toList_inj.symm
  simp [isName, hdot, hdots, and_assoc]

theorem step?_of_isName {name : String} (h : isName name = true) :
    Path.step? name.toList = some (.normal name.toList) := by
  obtain ⟨hempty, hdot, hdots, -⟩ := (isName_iff name).1 h
  unfold Path.step?
  split <;> simp_all

/-- Names with slashes between them are cut at the slashes into the same names. -/
theorem pieces_intercalate {below : List String} (hne : below ≠ [])
    (h : ∀ name ∈ below, isName name = true) :
    Path.pieces ("/".intercalate below).toList = below.map String.toList := by
  induction below with
  | nil => exact absurd rfl hne
  | cons name below ih =>
    have hname := ((isName_iff name).1 (h name (by simp))).2.2.2
    by_cases hrest : below = []
    · subst hrest
      simpa using Path.pieces_of_notMem hname
    · have hslash : "/".toList = ['/'] := rfl
      rw [String.intercalate_cons_of_ne_nil hrest, String.toList_append, String.toList_append,
        hslash, List.append_assoc, List.singleton_append, Path.pieces_append_slash,
        Path.pieces_of_notMem hname, ih hrest fun n hn => h n (by simp [hn])]
      rfl

/-- **A path below a root has the steps of the root and then one for each name.** -/
theorem components_pathBelow {root : Path} (hroot : root.text ≠ "") {below : List String}
    (hne : below ≠ []) (h : ∀ name ∈ below, isName name = true) :
    (pathBelow root below).components =
      root.components ++ below.map fun name => Path.Component.normal name.toList := by
  have hpieces := pieces_intercalate hne h
  have hhead : ("/".intercalate below).toList.head? ≠ some '/' := by
    obtain ⟨name, more, rfl⟩ := List.exists_cons_of_ne_nil hne
    intro hslash
    obtain ⟨rest, hrest⟩ := List.head?_eq_some_iff.1 hslash
    -- A slash in front would leave an empty first piece, and no name is empty.
    rw [hrest, Path.pieces_slash, List.map_cons] at hpieces
    exact ((isName_iff name).1 (h name (by simp))).1 (List.cons.inj hpieces).1.symm
  rw [pathBelow, Path.components_join hroot hhead, hpieces, List.filterMap_map]
  congr 1
  rw [← List.filterMap_eq_map]
  refine List.filterMap_congr ?_
  intro name hname
  exact step?_of_isName (h name hname)

/-- Two ways down from a root that lead to paths with the same key are the same. -/
theorem pathBelow_key_injective {root : Path} (hroot : root.text ≠ "") {below below' : List String}
    (hne : below ≠ []) (h : ∀ name ∈ below, isName name = true)
    (hne' : below' ≠ []) (h' : ∀ name ∈ below', isName name = true)
    (hkey : (pathBelow root below).key = (pathBelow root below').key) : below = below' := by
  simp only [Path.key, components_pathBelow hroot hne h, components_pathBelow hroot hne' h',
    List.map_append, List.map_map] at hkey
  refine List.map_injective_iff.2 ?_ (List.append_cancel_left hkey)
  intro name name' hnames
  simp only [Function.comp_apply, Path.Component.key, List.cons.injEq, true_and] at hnames
  exact String.toList_inj.1 (List.map_injective_iff.2 (fun c d => Char.toNat_inj.1) hnames)

/-! ## What a walk yields -/

/-- Removing repetitions leaves none. -/
theorem nodup_eraseDups {α : Type} [BEq α] [LawfulBEq α] (l : List α) : l.eraseDups.Nodup := by
  induction hn : l.length using Nat.strong_induction_on generalizing l with
  | _ n ih =>
    cases l with
    | nil => exact List.nodup_nil
    | cons x l =>
      have hshorter : (l.filter fun y => !y == x).length < n := by
        have := List.length_filter_le (fun y => !y == x) l
        simp only [List.length_cons] at hn
        omega
      rw [List.eraseDups_cons, List.nodup_cons]
      refine ⟨?_, ih _ hshorter _ rfl⟩
      intro hmem
      simpa using List.mem_eraseDups.1 hmem

theorem nodup_places (t : FileTree) : t.places.Nodup := nodup_eraseDups _

/-- What a walk yields of a place: the names from the directory to it, if there are any and a
directory can hold them. -/
theorem of_walk_eq_some {t : FileTree} {directory place below : List String}
    (h : (if directory.isPrefixOf place && !(place.drop directory.length).isEmpty &&
      (place.drop directory.length).all isName && t.entry? place != some .directory &&
      t.admits directory (place.drop directory.length)
      then some (place.drop directory.length) else none) = some below) :
    place = directory ++ below ∧ below ≠ [] ∧ ∀ name ∈ below, isName name = true := by
  rw [Option.ite_none_right_eq_some] at h
  obtain ⟨hcond, hbelow⟩ := h
  simp only [Bool.and_eq_true, Bool.not_eq_true', List.isPrefixOf_iff_prefix,
    List.all_eq_true] at hcond
  obtain ⟨⟨⟨⟨hfront, hne⟩, hnames⟩, -⟩, -⟩ := hcond
  obtain ⟨rest, rfl⟩ := hfront
  rw [List.drop_left] at hne hnames hbelow
  cases hbelow
  exact ⟨rfl, by simpa using hne, hnames⟩

/-- What a walk yields are names that lead somewhere below the directory. -/
theorem of_mem_walk {t : FileTree} {directory below : List String} (h : below ∈ t.walk directory) :
    below ≠ [] ∧ ∀ name ∈ below, isName name = true := by
  obtain ⟨place, -, hplace⟩ := List.mem_filterMap.1 h
  exact (of_walk_eq_some hplace).2

/-- A walk comes upon everything once only. -/
theorem nodup_walk (t : FileTree) (directory : List String) : (t.walk directory).Nodup := by
  refine List.Nodup.filterMap ?_ t.nodup_places
  intro place place' below h h'
  rw [(of_walk_eq_some h).1, (of_walk_eq_some h').1]

/-- **No two finds of a walk have paths with the same key.** -/
theorem nodup_key_walk (t : FileTree) {root : Path} (hroot : root.text ≠ "")
    (directory : List String) :
    ((t.walk directory).map fun below => (pathBelow root below).key).Nodup := by
  refine List.Nodup.map_on ?_ (t.nodup_walk directory)
  intro below hbelow below' hbelow' hkey
  obtain ⟨hne, hnames⟩ := of_mem_walk hbelow
  obtain ⟨hne', hnames'⟩ := of_mem_walk hbelow'
  exact pathBelow_key_injective hroot hne hnames hne' hnames' hkey

end FileTree

/-! ## Sorting what was found -/

/-- Every path of a list stands before the next, step by step. -/
def Path.Increasing (files : List Path) : Prop := files.Pairwise fun p q => p.key < q.key

namespace FileTree

/-- The sources among some finds with different keys are strictly increasing. -/
theorem increasing_sourcesAmong (t : FileTree) (globs : List (List Glob.Piece)) (root : Path)
    {found : List (List String)} (h : (found.map fun below => (pathBelow root below).key).Nodup) :
    Path.Increasing (t.sourcesAmong globs root found) := by
  unfold sourcesAmong
  set sources := (found.filter (t.isSource globs root)).map (pathBelow root) with hsources
  have hkeys : (sources.map Path.key).Nodup := by
    rw [hsources, List.map_map]
    exact h.sublist (List.filter_sublist.map _)
  have hnodup : ((sources.mergeSort Path.le).map Path.key).Nodup :=
    ((List.mergeSort_perm sources Path.le).map Path.key).nodup_iff.2 hkeys
  have hsorted := List.pairwise_mergeSort Path.sortOrder_le.trans Path.sortOrder_le.total sources
  refine hsorted.imp₂ ?_ (List.pairwise_map.1 hnodup)
  intro p q hle hne
  exact lt_of_le_of_ne ((Path.le_iff p q).1 hle) hne

/-- **The order in which finds come does not show** in the sources among them. -/
theorem sourcesAmong_perm (t : FileTree) (globs : List (List Glob.Piece)) (root : Path)
    {found found' : List (List String)}
    (h : (found.map fun below => (pathBelow root below).key).Nodup) (hperm : found.Perm found') :
    t.sourcesAmong globs root found = t.sourcesAmong globs root found' := by
  have h' := (hperm.map fun below => (pathBelow root below).key).nodup_iff.1 h
  have hsources : (t.sourcesAmong globs root found).Perm (t.sourcesAmong globs root found') := by
    refine (List.mergeSort_perm _ _).trans (List.Perm.trans ?_ (List.mergeSort_perm _ _).symm)
    exact (hperm.filter _).map _
  refine hsources.eq_of_pairwise ?_ (t.increasing_sourcesAmong globs root h)
    (t.increasing_sourcesAmong globs root h')
  intro p q _ _ hpq hqp
  exact absurd hqp (lt_asymm hpq)

/-- Nothing is at the end of an empty path. -/
theorem text_ne_of_locate {t : FileTree} {root : Path} {place : List String}
    (h : t.locate root = .ok place) : root.text ≠ "" := by
  intro hempty
  simp [locate, start?, hempty] at h

/-- Sources are collected wherever a path leads to a file or a directory. -/
theorem exists_collect_iff {t : FileTree} {globs : List (List Glob.Piece)} {root : Path} :
    (∃ files, t.collect globs root = .ok files) ↔
      t.isFile root = true ∨ t.isDirectory root = true := by
  unfold collect isFile isDirectory lookup?
  cases t.locate root with
  | error fault => simp
  | ok place =>
    cases hentry : t.entry? place with
    | none => simp [hentry]
    | some entry => cases entry <;> simp [hentry]

/-- What is collected: the path itself if it is a file, and otherwise what a walk from its
directory finds. -/
theorem collect_cases {t : FileTree} {globs : List (List Glob.Piece)} {root : Path}
    {files : List Path} (h : t.collect globs root = .ok files) :
    files = (if root.isSupported then [root] else []) ∨
      ∃ place, t.locate root = .ok place ∧ files = t.collectBelow globs root place := by
  unfold collect at h
  cases hplace : t.locate root with
  | error fault => simp [hplace] at h
  | ok place =>
    simp only [hplace] at h
    split at h
    · cases h
      exact .inl rfl
    · cases h
      exact .inr ⟨place, rfl, rfl⟩
    · cases h

/-- **The files collected below a path are strictly increasing.** -/
theorem increasing_collect {t : FileTree} {globs : List (List Glob.Piece)} {root : Path}
    {files : List Path} (h : t.collect globs root = .ok files) : Path.Increasing files := by
  obtain rfl | ⟨place, hplace, rfl⟩ := collect_cases h
  · split <;> simp [Path.Increasing]
  · exact t.increasing_sourcesAmong globs root
      (t.nodup_key_walk (text_ne_of_locate hplace) place)

/-- Only sources are collected. -/
theorem isSupported_of_mem_collect {t : FileTree} {globs : List (List Glob.Piece)} {root : Path}
    {files : List Path} (h : t.collect globs root = .ok files) {file : Path}
    (hfile : file ∈ files) : file.isSupported = true := by
  obtain rfl | ⟨place, -, rfl⟩ := collect_cases h
  · split at hfile
    · next hroot => exact List.mem_singleton.1 hfile ▸ hroot
    · simp at hfile
  · rw [collectBelow, sourcesAmong, List.mem_mergeSort, List.mem_map] at hfile
    obtain ⟨below, hbelow, rfl⟩ := hfile
    have hsource := (List.mem_filter.1 hbelow).2
    simp only [isSource, Bool.and_eq_true] at hsource
    exact hsource.1.2

end FileTree

end DeclaredDebt
