import DeclaredDebt.Proofs.SarifDocument
import DeclaredDebt.Proofs.UsageDebt

/-!
# What a message makes of a name

A message is made from its template in two steps: the name goes in first, and then every word for
the cost is replaced, wherever it stands. A name that holds that word itself is changed by the
second step. Such names exist, since a name is taken from the source as it stands and may have
comments between its parts. The word starts with a character that is nowhere else in it and that
closes nothing, so neither the quotes around the name nor the text behind it can complete a word
that the name has only begun: what stands between the words of a name is kept, and the message
shows a name as it is written exactly if the word is not in it.

## Main definitions

* `Bucket.messageNaming`: the message with a name and the cost in their places.
* `Diagnostic.NamesAsWritten`: the message of a diagnostic shows its name as it is written.
-/

namespace DeclaredDebt

/-! ## Replacing a word -/

namespace Text

variable {first : Char} {others value piece text : List Char}

theorem replaceFrom_length (word value skipped text : List Char) :
    replaceFrom word value skipped.length (skipped ++ text) = replaceFrom word value 0 text := by
  induction skipped with
  | nil => rfl
  | cons c skipped ih => rw [List.length_cons, List.cons_append, replaceFrom, ih]

theorem replace_word_append (first : Char) (others value text : List Char) :
    replace (first :: others) value (first :: others ++ text) =
      value ++ replace (first :: others) value text := by
  have hprefix : (first :: others).isPrefixOf (first :: (others ++ text)) = true :=
    List.isPrefixOf_iff_prefix.2 (List.prefix_append (first :: others) text)
  rw [replace, List.cons_append, replaceFrom, if_pos hprefix, List.length_cons,
    Nat.add_sub_cancel, replaceFrom_length, replace]

theorem replace_cons {c : Char} (h : ¬ first :: others <+: c :: text) :
    replace (first :: others) value (c :: text) = c :: replace (first :: others) value text := by
  have hprefix : ¬ (first :: others).isPrefixOf (c :: text) = true := by
    rwa [List.isPrefixOf_iff_prefix]
  rw [replace, replaceFrom, if_neg hprefix, replace]

/-- A piece without the first character of the word is kept. -/
theorem replace_append_of_notMem (h : first ∉ piece) :
    replace (first :: others) value (piece ++ text) =
      piece ++ replace (first :: others) value text := by
  induction piece with
  | nil => rfl
  | cons c piece ih =>
    obtain ⟨hne, hrest⟩ := not_or.1 (List.mem_cons.not.1 h)
    have hprefix : ¬ first :: others <+: c :: (piece ++ text) :=
      fun hword => hne (List.cons_prefix_cons.1 hword).1
    rw [List.cons_append, replace_cons hprefix, ih hrest, List.cons_append]

/-- A word does not begin in a piece without it, if what comes behind cannot go on with the word. -/
theorem not_prefix_append (hpiece : ¬ first :: others <:+: piece) (hne : piece ≠ [])
    (htext : ∀ c ∈ text.head?, c ∉ others) : ¬ first :: others <+: piece ++ text := by
  intro h
  rcases List.prefix_or_prefix_of_prefix h (List.prefix_append piece text) with hword | hbegun
  · exact hpiece hword.isInfix
  · obtain ⟨missing, hmissing⟩ := hbegun
    -- what the piece leaves over of the word is at the start of the text, and inside the word
    have hinside : missing <:+ others := by
      obtain ⟨c, piece, rfl⟩ := List.exists_cons_of_ne_nil hne
      exact ⟨piece, (List.cons.inj hmissing).2⟩
    rw [← hmissing, List.prefix_append_right_inj] at h
    cases missing with
    | nil =>
      rw [List.append_nil] at hmissing
      exact hpiece (hmissing ▸ List.infix_refl piece)
    | cons c missing =>
      obtain ⟨rest, rfl⟩ := h
      exact htext c rfl (hinside.subset List.mem_cons_self)

/-- A piece without the word is kept. -/
theorem replace_append (hpiece : ¬ first :: others <:+: piece)
    (htext : ∀ c ∈ text.head?, c ∉ others) :
    replace (first :: others) value (piece ++ text) =
      piece ++ replace (first :: others) value text := by
  induction piece with
  | nil => rfl
  | cons c piece ih =>
    have hrest : ¬ first :: others <:+: piece := fun h => hpiece (List.infix_cons h)
    have hprefix : ¬ first :: others <+: c :: (piece ++ text) :=
      not_prefix_append hpiece (List.cons_ne_nil c piece) htext
    rw [List.cons_append, replace_cons hprefix, ih hrest, List.cons_append]

/-- **Between pieces without the word, every word is replaced** and the pieces are kept. -/
theorem replace_intercalate (hfirst : first ∉ others) {pieces : List (List Char)}
    (hpieces : ∀ p ∈ pieces, ¬ first :: others <:+: p) (htext : ∀ c ∈ text.head?, c ∉ others) :
    replace (first :: others) value ((first :: others).intercalate pieces ++ text) =
      value.intercalate pieces ++ replace (first :: others) value text := by
  induction pieces with
  | nil => rfl
  | cons p pieces ih =>
    have hp : ¬ first :: others <:+: p := hpieces p List.mem_cons_self
    cases pieces with
    | nil => simpa using replace_append hp htext
    | cons q pieces =>
      have hword : ∀ c ∈ (first :: others ++ ((first :: others).intercalate (q :: pieces) ++
          text)).head?, c ∉ others := by simpa using hfirst
      rw [List.intercalate_cons_cons, List.append_assoc, List.append_assoc,
        replace_append hp hword, replace_word_append,
        ih fun r hr => hpieces r (List.mem_cons_of_mem _ hr), List.intercalate_cons_cons]
      simp only [List.append_assoc]

theorem intercalate_append (word : List Char) {ps qs : List (List Char)} (hps : ps ≠ [])
    (hqs : qs ≠ []) :
    word.intercalate (ps ++ qs) = word.intercalate ps ++ word ++ word.intercalate qs := by
  induction ps with
  | nil => exact absurd rfl hps
  | cons p ps ih =>
    cases ps with
    | nil =>
      obtain ⟨q, qs, rfl⟩ := List.exists_cons_of_ne_nil hqs
      simp [List.intercalate_cons_cons]
    | cons p' ps =>
      have hrest := ih (List.cons_ne_nil p' ps)
      rw [List.cons_append] at hrest
      rw [List.cons_append, List.cons_append, List.intercalate_cons_cons, hrest,
        List.intercalate_cons_cons]
      simp only [List.append_assoc]

/-- Words that start differently make different texts of the same pieces. -/
theorem intercalate_ne {c d : Char} (h : c ≠ d) {us vs : List Char} (p q : List Char)
    (pieces : List (List Char)) :
    (c :: us).intercalate (p :: q :: pieces) ≠ (d :: vs).intercalate (p :: q :: pieces) := by
  rw [List.intercalate_cons_cons, List.intercalate_cons_cons, List.append_assoc, List.append_assoc]
  intro heq
  exact h (List.cons.inj (List.append_cancel_left heq)).1

/-- Every text is made of pieces without the word, with the word between them. -/
theorem exists_pieces (first : Char) (others text : List Char) :
    ∃ pieces ≠ [], (∀ p ∈ pieces, ¬ first :: others <:+: p) ∧
      (first :: others).intercalate pieces = text := by
  induction hlength : text.length using Nat.strong_induction_on generalizing text with
  | _ n ih =>
    by_cases hword : first :: others <:+: text
    · obtain ⟨before, after, rfl⟩ := hword
      simp only [List.length_append, List.length_cons] at hlength
      obtain ⟨ps, hps, hpsFree, hbefore⟩ := ih before.length (by omega) before rfl
      obtain ⟨qs, hqs, hqsFree, hafter⟩ := ih after.length (by omega) after rfl
      refine ⟨ps ++ qs, by simp [hps], ?_, ?_⟩
      · intro p hp
        exact (List.mem_append.1 hp).elim (hpsFree p) (hqsFree p)
      · rw [intercalate_append _ hps hqs, hbefore, hafter]
    · exact ⟨[text], by simp, by simpa using hword, by simp⟩

end Text

/-! ## Messages -/

namespace Bucket

/-- The message with a name and the cost in their places. -/
def messageNaming (b : Bucket) (name : String) : String :=
  "'" ++ name ++ "' declares " ++ label b.days ++ " of manual technical debt"

theorem messageNaming_inj {b : Bucket} {name name' : String} :
    b.messageNaming name = b.messageNaming name' ↔ name = name' := by
  simp [messageNaming, String.append_left_inj, String.append_right_inj]

theorem daysWord_eq : daysWord = '\x7b' :: "days\x7d".toList := rfl

theorem nameWord_eq : nameWord = '\x7b' :: "name\x7d".toList := rfl

/-- A cost never starts like the word for it. -/
theorem exists_label (days : ℕ) : ∃ c rest, (label days).toList = c :: rest ∧ c ≠ '\x7b' := by
  unfold label
  split
  · exact ⟨'1', " day".toList, rfl, by decide⟩
  · rw [String.toList_append, Nat.toString_eq_repr, Nat.toList_repr]
    cases hdigits : Nat.toDigits 10 days with
    | nil => exact absurd hdigits Nat.toDigits_ne_nil
    | cons c rest =>
      have hdigit : c.isDigit = true :=
        Nat.isDigit_of_mem_toDigits (by decide) (by decide) (hdigits ▸ List.mem_cons_self)
      refine ⟨c, rest ++ " days".toList, rfl, ?_⟩
      rintro rfl
      exact absurd hdigit (by decide)

/-- What the first step makes of the template. -/
theorem replace_nameWord (name : List Char) :
    Text.replace nameWord name messageTemplate.toList =
      "'".toList ++ (name ++ ("' declares ".toList ++ (daysWord ++
        " of manual technical debt".toList))) := by
  have htemplate : messageTemplate.toList = "'".toList ++ (nameWord ++
      ("' declares ".toList ++ (daysWord ++ " of manual technical debt".toList))) := by decide
  have hrest : Text.replace nameWord name
      ("' declares ".toList ++ (daysWord ++ " of manual technical debt".toList)) =
      "' declares ".toList ++ (daysWord ++ " of manual technical debt".toList) := by
    rw [← List.append_nil ("' declares ".toList ++ _), nameWord_eq, Text.replace_append]
    · rfl
    · decide
    · simp
  rw [htemplate, nameWord_eq, Text.replace_append_of_notMem (by decide),
    Text.replace_word_append, ← nameWord_eq, hrest]

/-- **The second step changes a name exactly at the words for the cost in it.** -/
theorem message_intercalate (b : Bucket) {pieces : List (List Char)}
    (hpieces : ∀ p ∈ pieces, ¬ daysWord <:+: p) :
    b.message (String.ofList (daysWord.intercalate pieces)) =
      b.messageNaming (String.ofList ((label b.days).toList.intercalate pieces)) := by
  have hend : Text.replace daysWord (label b.days).toList " of manual technical debt".toList =
      " of manual technical debt".toList := by
    rw [← List.append_nil " of manual technical debt".toList, daysWord_eq,
      Text.replace_append_of_notMem (by decide)]
    rfl
  -- the quote behind the name does not go on with the word
  have hquote : ∀ text, ∀ c ∈ ("' declares ".toList ++ text).head?, c ∉ "days\x7d".toList := by
    intro text c hc
    cases hc
    decide
  rw [daysWord_eq] at hpieces
  rw [← String.toList_inj, message, String.toList_ofList, String.toList_ofList, replace_nameWord,
    daysWord_eq, Text.replace_append_of_notMem (by decide),
    Text.replace_intercalate (by decide) hpieces (hquote _),
    Text.replace_append_of_notMem (by decide), Text.replace_word_append, ← daysWord_eq, hend]
  simp [messageNaming]

/-- **A message shows a name as it is written exactly if the word for the cost is not in it.** -/
theorem message_eq_messageNaming_iff (b : Bucket) (name : String) :
    b.message name = b.messageNaming name ↔ ¬ daysWord <:+: name.toList := by
  obtain ⟨pieces, hne, hpieces, hname⟩ := Text.exists_pieces '\x7b' "days\x7d".toList name.toList
  rw [← daysWord_eq] at hpieces hname
  obtain ⟨c, rest, hlabel, hc⟩ := exists_label b.days
  have hmessage := b.message_intercalate hpieces
  rw [hname, String.ofList_toList] at hmessage
  rw [hmessage, messageNaming_inj, ← String.toList_inj, String.toList_ofList, ← hname]
  match pieces, hne with
  | [p], _ => simpa using hpieces p List.mem_cons_self
  | p :: q :: pieces, _ =>
    have hword : daysWord <:+: daysWord.intercalate (p :: q :: pieces) := by
      rw [List.intercalate_cons_cons]
      exact List.infix_append _ _ _
    have hchanged : (label b.days).toList.intercalate (p :: q :: pieces) ≠
        daysWord.intercalate (p :: q :: pieces) := by
      rw [hlabel, daysWord_eq]
      exact Text.intercalate_ne hc p q pieces
    simp only [hchanged, hword, not_true_eq_false]

end Bucket

/-! ## Diagnostics and results -/

namespace Diagnostic

/-- The message of a diagnostic shows its name as it is written. -/
def NamesAsWritten (d : Diagnostic) : Prop :=
  d.message = (⟨d.days⟩ : Bucket).messageNaming d.displayName

theorem OfRegistry.namesAsWritten_iff {d : Diagnostic} (h : d.OfRegistry) :
    d.NamesAsWritten ↔ ¬ Bucket.daysWord <:+: d.displayName.toList := by
  obtain ⟨b, -, severity?, location, displayName, rfl⟩ := h
  exact b.message_eq_messageNaming_iff displayName

end Diagnostic

theorem Usage.displayName_of_found? {u : Usage} {d : Debt} (h : u.found? = some d) :
    d.displayName = u.displayName := by
  unfold found? at h
  obtain hnone | ⟨name, days, -, hsome⟩ | ⟨literal, hover⟩ := u.debt?_cases
  · simp [hnone] at h
  · simp only [hsome, Option.some.injEq] at h
    rw [← h]
  · simp [hover] at h

/-- A diagnostic has the name of a usage. -/
theorem Analysis.exists_usage_of_mem_diagnostics {a : Analysis} {durationMs : ℕ} {file : Path}
    {usages : List Usage} {d : Diagnostic}
    (h : d ∈ (a.ofUsages durationMs file usages).diagnostics) :
    ∃ u ∈ usages, d.displayName = u.displayName := by
  rw [(a.diagnostics_ofUsages durationMs file usages).mem_iff, List.mem_flatMap] at h
  obtain ⟨debt, hdebt, hd⟩ := h
  obtain ⟨u, hu, hfound⟩ := List.mem_filterMap.1 (mem_of_mem_repeated hdebt)
  obtain ⟨cost, -, rfl⟩ := List.mem_map.1 hd
  exact ⟨u, hu, Usage.displayName_of_found? hfound⟩

/-- **A message shows a name as it is written exactly if the word for the cost is not in it.** Every
name is made of pieces without that word, with the word between them, and the message has the cost
between the pieces instead. A diagnostic has the name of a usage. The same goes for every
diagnostic of a report that an analysis produced, and for every result of its SARIF text. -/
theorem message_shows_name_iff (b : Bucket) (name : String) :
    (b.message name = b.messageNaming name ↔ ¬ Bucket.daysWord <:+: name.toList) ∧
    (∃ pieces : List (List Char), (∀ p ∈ pieces, ¬ Bucket.daysWord <:+: p) ∧
      name = String.ofList (Bucket.daysWord.intercalate pieces) ∧
      b.message name =
        b.messageNaming (String.ofList ((Bucket.label b.days).toList.intercalate pieces))) ∧
    (∀ (a : Analysis) (durationMs : ℕ) (file : Path) (usages : List Usage),
      ∀ d ∈ (a.ofUsages durationMs file usages).diagnostics,
        ∃ u ∈ usages, d.displayName = u.displayName) ∧
    ∀ r : Report, r.Produced →
      (∀ d ∈ r.diagnostics, (d.NamesAsWritten ↔ ¬ Bucket.daysWord <:+: d.displayName.toList)) ∧
      ∀ endTime : String, ∃ doc run results,
        Json.read? (Sarif.render endTime r) = some doc ∧
        doc.lookup? ["runs"] = some (.array [run]) ∧
        run.lookup? ["results"] = some (.array results) ∧
        List.Forall₂ (fun d v =>
          v.lookup? ["properties", "attribute"] = some (.string d.displayName) ∧
          (v.lookup? ["message", "text"] =
            some (.string ((⟨d.days⟩ : Bucket).messageNaming d.displayName)) ↔
              ¬ Bucket.daysWord <:+: d.displayName.toList)) r.diagnostics results := by
  refine ⟨b.message_eq_messageNaming_iff name, ?_,
    fun a durationMs file usages d => Analysis.exists_usage_of_mem_diagnostics, ?_⟩
  · obtain ⟨pieces, -, hpieces, hname⟩ :=
      Text.exists_pieces '\x7b' "days\x7d".toList name.toList
    rw [← Bucket.daysWord_eq] at hpieces hname
    refine ⟨pieces, hpieces, ?_, ?_⟩
    · rw [hname, String.ofList_toList]
    · rw [← b.message_intercalate hpieces, hname, String.ofList_toList]
  · intro r hproduced
    have hnames : ∀ d ∈ r.diagnostics,
        (d.NamesAsWritten ↔ ¬ Bucket.daysWord <:+: d.displayName.toList) :=
      fun d hd => (hproduced.ofRegistry d hd).namesAsWritten_iff
    refine ⟨hnames, ?_⟩
    intro endTime
    obtain ⟨run, hrun, hshows⟩ := Sarif.exists_run_shows endTime r
    refine ⟨Sarif.document endTime r, run, r.diagnostics.map Sarif.result,
      Json.read?_pretty (Sarif.plain_document endTime r), hrun, hshows.results_eq, ?_⟩
    rw [List.forall₂_map_right_iff, List.forall₂_same]
    intro d hd
    obtain ⟨-, hmessage, -, -, -, hname⟩ := Sarif.lookup?_result d
    refine ⟨hname, ?_⟩
    rw [hmessage, ← hnames d hd, Diagnostic.NamesAsWritten]
    simp

/-- A name with the word for the cost in a comment between its parts. -/
def commentedName : String := "A/*\x7bdays\x7d*/.ManualTechnicalDebt"

/-- A source with that name. -/
def commentedSource : List Char :=
  "[A/*\x7bdays\x7d*/.ManualTechnicalDebt(SqaleRemediationDaysEffort=1)]class B;".toList

set_option maxRecDepth 100000 in
theorem commentedSource_declares :
    (CSharp.parseSource ⟨"a.cs"⟩ commentedSource).usages.map
      (fun u => (u.displayName, u.declared?)) =
        [(commentedName, some (some ("ManualTechnicalDebt", 1)))] := by
  rw [CSharp.parseSource_eq]
  decide +kernel

/-- The comment in the name of that source is changed in its message. -/
theorem commentedName_is_changed :
    (∃ u ∈ (CSharp.parseSource ⟨"a.cs"⟩ commentedSource).usages,
      u.displayName = commentedName ∧ u.declared? = some (some ("ManualTechnicalDebt", 1))) ∧
    (⟨1⟩ : Bucket) ∈ Bucket.registry ∧
    (⟨1⟩ : Bucket).message commentedName =
      "'A/*1 day*/.ManualTechnicalDebt' declares 1 day of manual technical debt" ∧
    (⟨1⟩ : Bucket).message commentedName ≠ (⟨1⟩ : Bucket).messageNaming commentedName := by
  have husages := commentedSource_declares
  cases husages' : (CSharp.parseSource ⟨"a.cs"⟩ commentedSource).usages with
  | nil => simp [husages'] at husages
  | cons u us =>
    rw [husages'] at husages
    obtain ⟨hname, hdeclared⟩ := Prod.mk.inj (List.cons.inj husages).1
    exact ⟨⟨u, List.mem_cons_self, hname, hdeclared⟩, by decide, by decide, by decide⟩

set_option maxRecDepth 100000 in
/-- Both diagnostics for the debt of a small source show the name as it is written. -/
theorem twoTierSource_names_as_written :
    (({} : Analysis).ofSource 0 ⟨"a.cs"⟩ twoTierSource).Produced ∧
    (({} : Analysis).ofSource 0 ⟨"a.cs"⟩ twoTierSource).diagnostics.length = 2 ∧
    ∀ d ∈ (({} : Analysis).ofSource 0 ⟨"a.cs"⟩ twoTierSource).diagnostics, d.NamesAsWritten := by
  have hproduced : (({} : Analysis).ofSource 0 ⟨"a.cs"⟩ twoTierSource).Produced := .source _ _ _ _
  have hfree : ∀ u ∈ (CSharp.parseSource ⟨"a.cs"⟩ twoTierSource).usages,
      ¬ Bucket.daysWord <:+: u.displayName.toList := by
    rw [CSharp.parseSource_eq]
    decide +kernel
  obtain ⟨-, -, husages, hreports⟩ := message_shows_name_iff ⟨1⟩ "ManualTechnicalDebt"
  refine ⟨hproduced, length_diagnostics_twoTierSource, ?_⟩
  intro d hd
  rw [(hreports _ hproduced).1 d hd]
  rw [Analysis.ofSource] at hd
  obtain ⟨u, hu, hname⟩ := husages _ _ _ _ d hd
  rw [hname]
  exact hfree u hu

end DeclaredDebt
