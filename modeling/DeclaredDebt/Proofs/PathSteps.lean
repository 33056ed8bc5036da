import DeclaredDebt.Proofs.Collection

/-!
# Following a path step by step

A path is looked up step by step. A step looks at one place, and a link on the way puts its own
steps before the others. What a path leads to is thus an induction on the links that are left and
the steps, and whether its way leads over a place is one as well.

## Main definitions

* `FileTree.advance`: what one step of a path leads to.
* `FileTree.LeadsOver`: the way of some steps leads over a place.
* `FileTree.Meets`: a path can be resolved, and its way leads over a place.
-/

namespace DeclaredDebt.FileTree

/-! ## Following steps -/

/-- How far a step got. -/
structure Progress where
  /-- How many links may still be followed. -/
  links : ℕ
  here : List String
  /-- The steps of a link, which come before all others. -/
  front : List String

/-- What one step leads to, where nothing is created. -/
def advance (t : FileTree) (links : ℕ) (here : List String) (step : String) :
    Except FileFault Progress :=
  if t.entry? here ≠ some .directory then .error .notDirectory
  else if step = "" ∨ step = "." then .ok ⟨links, here, []⟩
  else if step = ".." then .ok ⟨links, here.dropLast, []⟩
  else
    match t.entry? (here ++ [step]) with
    | none => .error .notFound
    | some (.link target) =>
      match links with
      | 0 => .error .tooManyLinks
      | fewer + 1 =>
        match t.start? here target with
        | none => .error .notFound
        | some place => .ok ⟨fewer, place, steps target⟩
    | some _ => .ok ⟨links, here ++ [step], []⟩

/-- A step names something in a directory that is not there yet. -/
def IsFree (t : FileTree) (here : List String) (step : String) : Prop :=
  t.entry? here = some .directory ∧ step ≠ "" ∧ step ≠ "." ∧ step ≠ ".." ∧
    t.entry? (here ++ [step]) = none

instance (t : FileTree) (here : List String) (step : String) : Decidable (t.IsFree here step) :=
  inferInstanceAs (Decidable (_ ∧ _))

variable {t : FileTree} {creating : Bool} {links : ℕ} {here : List String} {step : String}

@[simp] theorem follow_nil : t.follow creating links here [] = .ok here := by
  cases links <;> rfl

/-- **Following steps is advancing by the first and following the rest**, unless the last step is to
be created. -/
theorem follow_cons {rest : List String} :
    t.follow creating links here (step :: rest) =
      if creating ∧ rest = [] ∧ t.IsFree here step then .ok (here ++ [step])
      else
        match t.advance links here step with
        | .error fault => .error fault
        | .ok p => t.follow creating p.links p.here (p.front ++ rest) := by
  have hunfold : t.follow creating links here (step :: rest) =
      if t.entry? here ≠ some .directory then .error .notDirectory
      else if step = "" ∨ step = "." then t.follow creating links here rest
      else if step = ".." then t.follow creating links here.dropLast rest
      else
        match t.entry? (here ++ [step]) with
        | none => if creating ∧ rest = [] then .ok (here ++ [step]) else .error .notFound
        | some (.link target) =>
          match links with
          | 0 => .error .tooManyLinks
          | fewer + 1 =>
            match t.start? here target with
            | none => .error .notFound
            | some place => t.follow creating fewer place (steps target ++ rest)
        | some _ => t.follow creating links (here ++ [step]) rest := by
    cases links <;> rfl
  rw [hunfold]
  by_cases hdirectory : t.entry? here = some .directory
  swap
  · simp [advance, IsFree, hdirectory]
  by_cases hdot : step = "" ∨ step = "."
  · obtain rfl | rfl := hdot <;> simp [advance, IsFree, hdirectory]
  by_cases hdots : step = ".."
  · simp [advance, IsFree, hdirectory, hdots]
  obtain ⟨hempty, hdot⟩ := not_or.1 hdot
  cases hentry : t.entry? (here ++ [step]) with
  | none => simp [advance, IsFree, hdirectory, hempty, hdot, hdots, hentry]
  | some entry =>
    cases entry with
    | file content => simp [advance, IsFree, hdirectory, hempty, hdot, hdots, hentry]
    | directory => simp [advance, IsFree, hdirectory, hempty, hdot, hdots, hentry]
    | link target =>
      cases links with
      | zero => simp [advance, IsFree, hdirectory, hempty, hdot, hdots, hentry]
      | succ fewer =>
        cases hstart : t.start? here target <;>
          simp [advance, IsFree, hdirectory, hempty, hdot, hdots, hentry, hstart]

/-- A step takes no link, or leaves fewer. -/
theorem of_advance {p : Progress} (h : t.advance links here step = .ok p) :
    p.front = [] ∧ p.links = links ∨ p.links < links := by
  unfold advance at h
  grind

/-- What holds of no steps, and of some steps if it holds of what the first one leads to, holds of
all steps. -/
theorem follow_induction (t : FileTree) {motive : ℕ → List String → List String → Prop}
    (nil : ∀ links here, motive links here [])
    (cons : ∀ links here step rest,
      (∀ p, t.advance links here step = .ok p → motive p.links p.here (p.front ++ rest)) →
      motive links here (step :: rest)) :
    ∀ links here steps, motive links here steps := by
  intro links
  -- A link can bring any number of steps, so the links left go first and the steps second.
  induction links using Nat.strong_induction_on with
  | _ links ihlinks =>
    intro here steps
    induction steps generalizing here with
    | nil => exact nil links here
    | cons step rest ih =>
      refine cons links here step rest ?_
      intro p hp
      obtain ⟨hfront, hlinks⟩ | hfewer := of_advance hp
      · rw [hfront, hlinks]
        exact ih p.here
      · exact ihlinks p.links hfewer p.here _

/-- A file leads no further. -/
theorem follow_of_file {content : List UInt8} (hfile : t.entry? here = some (.file content))
    {steps place : List String} (h : t.follow creating links here steps = .ok place) :
    place = here := by
  cases steps with
  | nil =>
    rw [follow_nil] at h
    exact (Except.ok.inj h).symm
  | cons step rest =>
    rw [follow_cons] at h
    simp [advance, IsFree, hfile] at h

/-! ## Paths below a root -/

theorem steps_append_slash (text rest : String) :
    steps (text ++ "/" ++ rest) = steps text ++ steps rest := by
  have hslash : "/".toList = ['/'] := rfl
  simp only [steps, String.toList_append, hslash, List.append_assoc, List.singleton_append,
    Path.pieces_append_slash, List.map_append]

/-- A text that ends with a slash has an empty step at its end. -/
theorem steps_slash (text : String) : steps (text ++ "/") = steps text ++ [""] := by
  have h := steps_append_slash text ""
  rwa [String.append_empty] at h

/-- What is put behind a directory adds its own steps; an empty step at the end of the directory is
lost. -/
theorem steps_join {dir : Path} (hdir : dir.text ≠ "") {name : String}
    (hname : name.toList.head? ≠ some '/') :
    dir.text.toList <+: (dir.join name).text.toList ∧
      ∃ front, steps (dir.join name).text = front ++ steps name ∧
        (steps dir.text = front ∨ steps dir.text = front ++ [""]) := by
  unfold Path.join
  rw [if_neg hname, if_neg hdir]
  split
  · next hlast =>
    obtain ⟨text, htext⟩ := List.getLast?_eq_some_iff.1 hlast
    have hsplit : dir.text = String.ofList text ++ "/" := by
      rw [← String.toList_inj, htext, String.toList_append, String.toList_ofList]
      rfl
    refine ⟨by simp, steps (String.ofList text), ?_, .inr ?_⟩
    · rw [hsplit, steps_append_slash]
    · rw [hsplit, steps_slash]
  · exact ⟨by simp, steps dir.text, steps_append_slash _ _, .inl rfl⟩

/-- The steps of a path below a root end with the names that lead there. -/
theorem steps_pathBelow {root : Path} (hroot : root.text ≠ "") {below : List String}
    (hne : below ≠ []) (h : ∀ name ∈ below, isName name = true) :
    root.text.toList <+: (pathBelow root below).text.toList ∧
      ∃ front, steps (pathBelow root below).text = front ++ below ∧
        (steps root.text = front ∨ steps root.text = front ++ [""]) := by
  have hbelow : steps ("/".intercalate below) = below := by
    rw [steps, pieces_intercalate hne h, List.map_map]
    simp
  have hhead : ("/".intercalate below).toList.head? ≠ some '/' := by
    obtain ⟨name, more, rfl⟩ := List.exists_cons_of_ne_nil hne
    intro hslash
    obtain ⟨rest, hrest⟩ := List.head?_eq_some_iff.1 hslash
    have hpieces := pieces_intercalate hne h
    rw [hrest, Path.pieces_slash, List.map_cons] at hpieces
    exact ((isName_iff name).1 (h name (by simp))).1 (List.cons.inj hpieces).1.symm
  obtain ⟨hstarts, front, hsteps, hfront⟩ := steps_join hroot hhead
  exact ⟨hstarts, front, by rw [pathBelow, hsteps, hbelow], hfront⟩

/-- Where two endings of a path lead to the same from everywhere, the whole paths do. -/
theorem follow_append_congr {more more' : List String}
    (h : ∀ links here, t.follow false links here more = t.follow false links here more') :
    ∀ links here steps,
      t.follow false links here (steps ++ more) = t.follow false links here (steps ++ more') := by
  refine t.follow_induction h ?_
  intro links here step rest ih
  rw [List.cons_append, List.cons_append, follow_cons, follow_cons]
  cases hp : t.advance links here step with
  | error fault => simp
  | ok p => simpa using ih p hp

/-- An empty step before others only asks for a directory, as they do. -/
theorem follow_empty_cons {rest : List String} :
    t.follow false links here ("" :: step :: rest) = t.follow false links here (step :: rest) := by
  by_cases hdirectory : t.entry? here = some .directory
  · rw [follow_cons]
    simp [advance, hdirectory]
  · rw [follow_cons, follow_cons]
    simp [advance, hdirectory]

/-- A path below a root is followed as the root and then the names. -/
theorem locate_pathBelow {root : Path} {start below : List String} (hroot : root.text ≠ "")
    (hstart : t.start? t.workingDirectory root.text = some start) (hne : below ≠ [])
    (hnames : ∀ name ∈ below, isName name = true) :
    t.locate (pathBelow root below) = t.follow false maxLinks start (steps root.text ++ below) := by
  obtain ⟨⟨rest, hrest⟩, front, hsteps, hfront⟩ := steps_pathBelow hroot hne hnames
  have hchars : root.text.toList ≠ [] := by simpa using hroot
  have hhead : (pathBelow root below).text.toList.head? = root.text.toList.head? := by
    rw [← hrest, List.head?_append_of_ne_nil _ hchars]
  have htext : (pathBelow root below).text ≠ "" := by
    intro hempty
    rw [hempty] at hrest
    exact hchars (List.append_eq_nil_iff.1 hrest).1
  have hstart' : t.start? t.workingDirectory (pathBelow root below).text = some start := by
    rw [start?, hhead]
    exact hstart
  simp only [locate, hstart', htext, if_false, hsteps]
  obtain hfront | hfront := hfront
  · rw [hfront]
  · rw [hfront, List.append_assoc]
    obtain ⟨name, more, rfl⟩ := List.exists_cons_of_ne_nil hne
    exact follow_append_congr (fun _ _ => follow_empty_cons.symm) _ _ _

/-! ## Ways that lead over a place -/

/-- A step looks at a place: from a directory it names what stands there. -/
def LooksAt (t : FileTree) (site here : List String) (step : String) : Prop :=
  t.entry? here = some .directory ∧ step ≠ "" ∧ step ≠ "." ∧ step ≠ ".." ∧ here ++ [step] = site

/-- The way of some steps leads over a place: one of them, or of those that links bring, looks at
it. -/
inductive LeadsOver (t : FileTree) (site : List String) :
    ℕ → List String → List String → Prop
  | now {links : ℕ} {here rest : List String} {step : String} (h : t.LooksAt site here step) :
    LeadsOver t site links here (step :: rest)
  | later {links : ℕ} {here rest : List String} {step : String} {p : Progress}
    (hp : t.advance links here step = .ok p)
    (h : LeadsOver t site p.links p.here (p.front ++ rest)) :
    LeadsOver t site links here (step :: rest)

/-- Steps can be resolved, and their way leads over a place. -/
def MeetsFrom (t : FileTree) (site here steps : List String) : Prop :=
  (∃ place, t.follow false maxLinks here steps = .ok place) ∧ t.LeadsOver site maxLinks here steps

/-- A path can be resolved, and its way leads over a place. -/
def Meets (t : FileTree) (site : List String) (p : Path) : Prop :=
  ∃ start, t.start? t.workingDirectory p.text = some start ∧ t.MeetsFrom site start (steps p.text)

variable {site : List String}

theorem not_leadsOver_nil : ¬ t.LeadsOver site links here [] := by
  rintro ⟨⟩

theorem leadsOver_cons_iff {rest : List String} :
    t.LeadsOver site links here (step :: rest) ↔ t.LooksAt site here step ∨
      ∃ p, t.advance links here step = .ok p ∧
        t.LeadsOver site p.links p.here (p.front ++ rest) := by
  constructor
  · rintro (h | ⟨hp, h⟩)
    · exact .inl h
    · exact .inr ⟨_, hp, h⟩
  · rintro (h | ⟨p, hp, h⟩)
    · exact .now h
    · exact .later hp h

/-- Where a place is a file or nothing, a way over it ends there. -/
theorem follow_of_leadsOver (hsite : ∀ e, t.entry? site = some e → ∃ content, e = .file content)
    {steps place : List String} (h : t.LeadsOver site links here steps)
    (hplace : t.follow creating links here steps = .ok place) : place = site := by
  induction h with
  | @now links here rest step hlooks =>
    obtain ⟨hdirectory, hempty, hdot, hdots, rfl⟩ := hlooks
    rw [follow_cons] at hplace
    split_ifs at hplace
    · exact (Except.ok.inj hplace).symm
    · cases hentry : t.entry? (here ++ [step]) with
      | none => simp [advance, hdirectory, hempty, hdot, hdots, hentry] at hplace
      | some e =>
        obtain ⟨content, rfl⟩ := hsite e hentry
        simp only [advance, hdirectory, hempty, hdot, hdots, hentry, ne_eq, not_true, if_false,
          or_self, List.nil_append] at hplace
        exact follow_of_file hentry hplace
  | @later links here rest step p hp _ ih =>
    rw [follow_cons] at hplace
    split_ifs at hplace with hfree
    · obtain ⟨-, -, hdirectory, hempty, hdot, hdots, hnone⟩ := hfree
      simp [advance, hdirectory, hempty, hdot, hdots, hnone] at hp
    · rw [hp] at hplace
      exact ih hplace

/-- Names that no link has lead over no place of another name. -/
theorem not_leadsOver_of_names {names : List String}
    (hlinks : ∀ place, ∀ name ∈ names, ∀ target, t.entry? (place ++ [name]) ≠ some (.link target))
    (hnames : ∀ name ∈ names, isName name = true ∧ site.getLast? ≠ some name) :
    ¬ t.LeadsOver site links here names := by
  induction names generalizing here with
  | nil => exact not_leadsOver_nil
  | cons name names ih =>
    obtain ⟨hname, hlast⟩ := hnames name (by simp)
    simp only [isName, Bool.and_eq_true, bne_iff_ne] at hname
    obtain ⟨⟨⟨hempty, hdot⟩, hdots⟩, -⟩ := hname
    rw [leadsOver_cons_iff]
    rintro (⟨-, -, -, -, rfl⟩ | ⟨p, hp, h⟩)
    · simp at hlast
    · have hfront : p.front = [] ∧ p.links = links := by
        unfold advance at hp
        have hlink := hlinks here name (by simp)
        grind
      rw [hfront.1, hfront.2, List.nil_append] at h
      exact ih (fun place n hn => hlinks place n (by simp [hn]))
        (fun n hn => hnames n (by simp [hn])) h

end DeclaredDebt.FileTree
