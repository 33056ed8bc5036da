import DeclaredDebt.Proofs.RealLiteral

/-!
# The texts that are read as a day count

A text is read as a day count only if it spells one: without the white space around it, its low
lines and the letters of a suffix, it is the mark of a radix and then digits of that radix, at least
one and nothing else. There is one exception. A plus sign may stand between the mark and the digits,
so that `+5` and `0x+1F` are read as numbers although neither is an integer literal. A plus sign
anywhere else, and a minus sign, are refused.

## Main definitions

* `Stripped`: what is left of a text without white space, low lines and suffix.
* `Radix.Spells`: a sign and digits behind a mark, and the number they stand for.
* `Spells`: a text that spells a number.
-/

namespace DeclaredDebt

/-- The letters of a suffix. -/
def suffixLetters : List Char := ['u', 'U', 'l', 'L']

/-- What is left of a text: the white space around its core is taken away, then the low lines in the
core, then the letters of a suffix at its end. -/
def Stripped (text bare : List Char) : Prop :=
  ∃ before core after suffix, text = before ++ core ++ after ∧
    (∀ c ∈ before, Text.isBlank c = true) ∧ (∀ c ∈ after, Text.isBlank c = true) ∧
    (∀ c ∈ core.head?, Text.isBlank c = false) ∧ (∀ c ∈ core.getLast?, Text.isBlank c = false) ∧
    core.filter (· ≠ '_') = bare ++ suffix ∧
    (∀ c ∈ suffix, c ∈ suffixLetters) ∧ ∀ c ∈ bare.getLast?, c ∉ suffixLetters

/-- A mark of a radix, a sign and digits of the radix, which stand for a number. -/
def Radix.Spells (r : Radix) (sign bare : List Char) (v : ℕ) : Prop :=
  ∃ mark ∈ r.marks, ∃ digits, bare = mark ++ (sign ++ digits) ∧ digits ≠ [] ∧
    (∀ c ∈ digits, r.isDigit c = true) ∧
    v = Nat.ofDigits r.base (digits.map Radix.digitValue).reverse

/-- A text spells a number, with a sign in front of its digits. -/
def Spells (sign text : List Char) (v : ℕ) : Prop :=
  ∃ bare, Stripped text bare ∧ ∃ r : Radix, r.Spells sign bare v

/-! ## What is left of a text -/

namespace Text

/-- What is dropped at the end is of the class, up to a character that is not. -/
theorem exists_dropEndWhile_append (p : Char → Bool) (text : List Char) :
    ∃ tail, text = dropEndWhile p text ++ tail ∧ (∀ c ∈ tail, p c = true) ∧
      ∀ c ∈ (dropEndWhile p text).getLast?, p c = false := by
  refine ⟨(text.reverse.takeWhile p).reverse, ?_, ?_, ?_⟩
  · rw [dropEndWhile, ← List.reverse_append, List.takeWhile_append_dropWhile, List.reverse_reverse]
  · intro c hc
    exact List.mem_takeWhile_imp (List.mem_reverse.1 hc)
  · intro c hc
    rw [dropEndWhile, List.getLast?_reverse] at hc
    have hhead := List.head?_dropWhile_not p text.reverse
    rw [Option.mem_def.1 hc] at hhead
    simpa using hhead

/-- Blanks around a text that neither starts nor ends with one are all that is trimmed. -/
theorem trim_append {before core after : List Char} (hbefore : ∀ c ∈ before, isBlank c = true)
    (hafter : ∀ c ∈ after, isBlank c = true) (hhead : ∀ c ∈ core.head?, isBlank c = false)
    (hlast : ∀ c ∈ core.getLast?, isBlank c = false) :
    trim (before ++ core ++ after) = core := by
  have hdrop : (before ++ core ++ after).dropWhile isBlank = (core ++ after).dropWhile isBlank := by
    rw [List.append_assoc, List.dropWhile_append_of_pos hbefore]
  cases core with
  | nil =>
    have hnone : after.dropWhile isBlank = [] := List.dropWhile_eq_nil_iff.2 hafter
    rw [trim, hdrop, List.nil_append, hnone]
    rfl
  | cons c core =>
    have hkeep : (c :: core ++ after).dropWhile isBlank = c :: core ++ after := by
      simp [hhead c (by simp)]
    rw [trim, hdrop, hkeep]
    exact dropEndWhile_append hafter hlast

theorem exists_trim_append (text : List Char) :
    ∃ before after, text = before ++ trim text ++ after ∧ (∀ c ∈ before, isBlank c = true) ∧
      (∀ c ∈ after, isBlank c = true) ∧ (∀ c ∈ (trim text).head?, isBlank c = false) ∧
      ∀ c ∈ (trim text).getLast?, isBlank c = false := by
  obtain ⟨after, hafter, hblank, hlast⟩ :=
    exists_dropEndWhile_append isBlank (text.dropWhile isBlank)
  refine ⟨text.takeWhile isBlank, after, ?_, fun c => List.mem_takeWhile_imp, hblank, ?_, hlast⟩
  · rw [trim, List.append_assoc, ← hafter, List.takeWhile_append_dropWhile]
  · intro c hc
    -- What is left starts as the text did before its end was dropped.
    have hstarts : c ∈ (text.dropWhile isBlank).head? := by
      rw [hafter, List.head?_append, Option.mem_def]
      rw [Option.mem_def, trim] at hc
      rw [hc]
      rfl
    have hhead := List.head?_dropWhile_not isBlank text
    rw [Option.mem_def.1 hstarts] at hhead
    simpa using hhead

end Text

theorem isSuffixLetter_iff {c : Char} : Literal.isSuffixLetter c = true ↔ c ∈ suffixLetters := by
  simp [Literal.isSuffixLetter, suffixLetters, or_assoc]

theorem isSuffixLetter_eq_false_iff {c : Char} :
    Literal.isSuffixLetter c = false ↔ c ∉ suffixLetters := by
  rw [← isSuffixLetter_iff, Bool.not_eq_true]

/-- **The body of a literal is what is left of its text.** -/
theorem stripped_iff {text bare : List Char} : Stripped text bare ↔ Literal.body text = bare := by
  constructor
  · rintro ⟨before, core, after, suffix, rfl, hbefore, hafter, hhead, hlast, hcore, hsuffix, hbare⟩
    rw [Literal.body, Text.trim_append hbefore hafter hhead hlast, hcore]
    exact Text.dropEndWhile_append (fun c hc => isSuffixLetter_iff.2 (hsuffix c hc))
      fun c hc => isSuffixLetter_eq_false_iff.2 (hbare c hc)
  · rintro rfl
    obtain ⟨before, after, htext, hbefore, hafter, hhead, hlast⟩ := Text.exists_trim_append text
    obtain ⟨suffix, hcore, hsuffix, hbare⟩ := Text.exists_dropEndWhile_append Literal.isSuffixLetter
      ((Text.trim text).filter (· ≠ '_'))
    exact ⟨before, Text.trim text, after, suffix, htext, hbefore, hafter, hhead, hlast, hcore,
      fun c hc => isSuffixLetter_iff.1 (hsuffix c hc),
      fun c hc => isSuffixLetter_eq_false_iff.1 (hbare c hc)⟩

/-- A character that is never taken away is in a text iff it is in what is left. -/
theorem Stripped.mem_iff {text bare : List Char} (h : Stripped text bare) {c : Char}
    (hblank : Text.isBlank c = false) (hline : c ≠ '_') (hletter : c ∉ suffixLetters) :
    c ∈ text ↔ c ∈ bare := by
  obtain ⟨before, core, after, suffix, rfl, hbefore, hafter, -, -, hcore, hsuffix, -⟩ := h
  have hbefore : c ∉ before := fun hc => by simp [hbefore c hc] at hblank
  have hafter : c ∉ after := fun hc => by simp [hafter c hc] at hblank
  have hsuffix : c ∉ suffix := fun hc => hletter (hsuffix c hc)
  have hmem : c ∈ core.filter (· ≠ '_') ↔ c ∈ bare ++ suffix := by rw [hcore]
  simpa [hbefore, hafter, hsuffix, hline] using hmem

/-! ## Digits -/

namespace Radix

variable {r : Radix} {c : Char}

/-- Only digits are read with a value. -/
theorem mem_of_digitValue? {radix d : ℕ} (h : Text.digitValue? radix c = some d)
    (hd : d < 16) : c ∈ smallDigits ++ capitalDigits := by
  have hrange : 48 ≤ c.toNat ∧ c.toNat < 58 ∨ 97 ≤ c.toNat ∧ c.toNat < 103 ∨
      65 ≤ c.toNat ∧ c.toNat < 71 := by
    simp only [Text.digitValue?] at h
    split_ifs at h <;> simp at h <;> omega
  have hall : ∀ n < 103, 48 ≤ n ∧ n < 58 ∨ 97 ≤ n ∧ n < 103 ∨ 65 ≤ n ∧ n < 71 →
      Char.ofNat n ∈ smallDigits ++ capitalDigits := by
    decide
  have hmem := hall c.toNat (by omega) hrange
  rwa [Char.ofNat_toNat] at hmem

theorem digitValue_lt (h : c ∈ smallDigits ++ capitalDigits) : digitValue c < 16 := by
  refine min_lt_iff.2 ?_
  rcases List.mem_append.1 h with hsmall | hcapital
  · exact .inl (List.idxOf_lt_length_iff.2 hsmall)
  · exact .inr (List.idxOf_lt_length_iff.2 hcapital)

/-- What is read with a value is a digit of the radix. -/
theorem isDigit_of_digitValue? {d : ℕ} (h : Text.digitValue? r.base c = some d) :
    r.isDigit c = true := by
  have hbound : d < r.base := by
    simp only [Text.digitValue?, Option.bind_eq_some_iff] at h
    obtain ⟨e, -, he⟩ := h
    obtain ⟨hlt, hed⟩ := Option.ite_none_right_eq_some.1 he
    exact Option.some.inj hed ▸ hlt
  have hmem := mem_of_digitValue? h (lt_of_lt_of_le hbound r.base_le)
  have hsixteen := digitValue?_sixteen (digitValue_lt hmem)
  -- The radix decides only whether a character counts, and not its value.
  simp only [Text.digitValue?, Option.bind_eq_some_iff, Option.ite_none_right_eq_some] at h hsixteen
  obtain ⟨e, he, -, hed⟩ := h
  obtain ⟨e', he', -, hvalue⟩ := hsixteen
  have heq : e = e' := Option.some.inj (he.symm.trans he')
  have hdigit : digitValue c = d :=
    (Option.some.inj hvalue).symm.trans (heq ▸ Option.some.inj hed)
  simpa [isDigit, hdigit] using hbound

/-- **Digits are read to a number only if all of them are digits**, and then to their value. -/
theorem readDigits_eq_value_iff {limit value v : ℕ} (hvalue : value < limit)
    (digits : List Char) :
    Text.readDigits limit r.base value digits = .value v ↔
      (∀ c ∈ digits, r.isDigit c = true) ∧ v = r.extend value digits ∧ v < limit := by
  constructor
  · intro h
    have hall : ∀ c ∈ digits, r.isDigit c = true := by
      clear hvalue
      induction digits generalizing value with
      | nil => simp
      | cons c digits ih =>
        rw [Text.readDigits] at h
        cases hc : Text.digitValue? r.base c with
        | none => simp [hc] at h
        | some d =>
          simp only [hc] at h
          split_ifs at h
          exact List.forall_mem_cons.2 ⟨isDigit_of_digitValue? hc, ih h⟩
    rw [readDigits_eq digits hall hvalue] at h
    split_ifs at h with hlt
    cases h
    exact ⟨hall, rfl, hlt⟩
  · rintro ⟨hall, rfl, hlt⟩
    rw [readDigits_eq digits hall hvalue, if_pos hlt]

end Radix

/-! ## Signs and marks -/

/-- The signs that are passed over in front of digits. -/
def passedSigns : List (List Char) := [[], ['+']]

theorem Text.readNat_plus {limit radix : ℕ} {digits : List Char} (h : digits ≠ []) :
    Text.readNat limit radix ('+' :: digits) = Text.readDigits limit radix 0 digits := by
  obtain ⟨c, rest, rfl⟩ := List.exists_cons_of_ne_nil h
  rfl

/-- A number is read from digits of the radix, with one plus sign in front of them or without. -/
theorem Radix.readNat_eq_value_iff (r : Radix) {limit v : ℕ} (hlimit : 0 < limit)
    (text : List Char) :
    Text.readNat limit r.base text = .value v ↔
      ∃ sign ∈ passedSigns, ∃ digits, text = sign ++ digits ∧ digits ≠ [] ∧
        (∀ c ∈ digits, r.isDigit c = true) ∧ v = r.extend 0 digits ∧ v < limit := by
  constructor
  · intro h
    rcases text with _ | ⟨c, rest⟩
    · simp [Text.readNat] at h
    by_cases hplus : c = '+'
    · subst hplus
      have hrest : rest ≠ [] := by
        rintro rfl
        simp [Text.readNat] at h
      rw [Text.readNat_plus hrest, readDigits_eq_value_iff hlimit] at h
      exact ⟨['+'], by simp [passedSigns], rest, rfl, hrest, h⟩
    · rw [Text.readNat_of_ne_plus hplus, readDigits_eq_value_iff hlimit] at h
      exact ⟨[], by simp [passedSigns], c :: rest, rfl, by simp, h⟩
  · rintro ⟨sign, hsign, digits, rfl, hne, h⟩
    have hread := (readDigits_eq_value_iff hlimit digits).2 h
    simp only [passedSigns, List.mem_cons, List.not_mem_nil, or_false] at hsign
    rcases hsign with rfl | rfl
    · obtain ⟨c, rest, rfl⟩ := List.exists_cons_of_ne_nil hne
      have hplus : c ≠ '+' := Radix.ne_of_isDigit (h.1 c (by simp)) (by decide)
      rwa [List.nil_append, Text.readNat_of_ne_plus hplus]
    · rwa [List.singleton_append, Text.readNat_plus hne]

/-- A body is split into a mark and the rest. -/
theorem Literal.exists_radixAndDigits (bare : List Char) :
    ∃ (r : Radix) (mark : List Char) (rest : List Char), mark ∈ r.marks ∧ bare = mark ++ rest ∧
      Literal.radixAndDigits bare = (r.base, rest) := by
  unfold Literal.radixAndDigits
  split
  · next rest => exact ⟨.hexadecimal, ['0', 'x'], rest, by decide, rfl, rfl⟩
  · next rest => exact ⟨.hexadecimal, ['0', 'X'], rest, by decide, rfl, rfl⟩
  · next rest => exact ⟨.binary, ['0', 'b'], rest, by decide, rfl, rfl⟩
  · next rest => exact ⟨.binary, ['0', 'B'], rest, by decide, rfl, rfl⟩
  · exact ⟨.decimal, [], bare, by decide, rfl, rfl⟩

/-- A mark is found where digits stand behind it, and none where decimal digits do. -/
theorem Literal.radixAndDigits_mark {r : Radix} {mark sign digits : List Char}
    (hmark : mark ∈ r.marks) (hsign : sign ∈ passedSigns)
    (hdigits : ∀ c ∈ digits, r.isDigit c = true) :
    Literal.radixAndDigits (mark ++ (sign ++ digits)) = (r.base, sign ++ digits) := by
  cases r with
  | decimal =>
    obtain rfl : mark = [] := by simpa [Radix.marks] using hmark
    rw [List.nil_append]
    refine Literal.radixAndDigits_of_forall ?_
    intro c hc
    rcases List.mem_append.1 hc with hc | hc
    · have hall : ∀ sign ∈ passedSigns, ∀ c ∈ sign, c ∉ ['x', 'X', 'b', 'B'] := by
        simp [passedSigns]
      exact hall sign hsign c hc
    · have hdecimal := Radix.of_isDigit
        (fun c => !Radix.decimal.isDigit c || decide (c ∉ ['x', 'X', 'b', 'B'])) (hdigits c hc)
        (by decide)
      simpa [hdigits c hc] using hdecimal
  | hexadecimal =>
    simp only [Radix.marks, List.mem_cons, List.not_mem_nil, or_false] at hmark
    rcases hmark with rfl | rfl <;> rfl
  | binary =>
    simp only [Radix.marks, List.mem_cons, List.not_mem_nil, or_false] at hmark
    rcases hmark with rfl | rfl <;> rfl

/-! ## Day counts -/

namespace Literal

/-- A day count is a number that is read and is not too large. -/
theorem read_eq_days_iff_value {text digits : List Char} {radix v : ℕ}
    (hsplit : radixAndDigits (body text) = (radix, digits)) :
    read text = .days v ↔ v ≤ 65535 ∧ Text.readNat wordLimit radix digits = .value v := by
  have hmax : maxDays = 65535 := rfl
  unfold read
  rw [hsplit, hmax]
  dsimp only
  cases Text.readNat wordLimit radix digits with
  | value n =>
    by_cases hn : n ≤ 65535
    · simp only [if_pos hn, Reading.days.injEq, Text.NumberRead.value.injEq]
      exact ⟨fun h => ⟨h ▸ hn, h⟩, And.right⟩
    · simp only [if_neg hn, Text.NumberRead.value.injEq, reduceCtorEq, false_iff]
      exact fun h => hn (h.2 ▸ h.1)
  | empty => simp
  | badDigit => simp
  | tooLarge => simp

/-- **A text is read as a day count iff it spells one with one of the signs that are passed
over.** -/
theorem read_eq_days_iff {text : List Char} {v : ℕ} :
    read text = .days v ↔ v ≤ 65535 ∧ ∃ sign ∈ passedSigns, Spells sign text v := by
  constructor
  · intro h
    obtain ⟨r, mark, rest, hmark, hbody, hsplit⟩ := exists_radixAndDigits (body text)
    obtain ⟨hv, hvalue⟩ := (read_eq_days_iff_value hsplit).1 h
    obtain ⟨sign, hsign, digits, rfl, hne, hdigits, hvalue, -⟩ :=
      (r.readNat_eq_value_iff (by decide) rest).1 hvalue
    exact ⟨hv, sign, hsign, body text, stripped_iff.2 rfl, r, mark, hmark, digits, hbody, hne,
      hdigits, hvalue.trans (r.extend_zero digits)⟩
  · rintro ⟨hv, sign, hsign, bare, hbare, r, mark, hmark, digits, rfl, hne, hdigits, hvalue⟩
    have hsplit : radixAndDigits (body text) = (r.base, sign ++ digits) := by
      rw [stripped_iff.1 hbare, radixAndDigits_mark hmark hsign hdigits]
    have hword : v < wordLimit := lt_of_le_of_lt hv (by decide)
    exact (read_eq_days_iff_value hsplit).2 ⟨hv, (r.readNat_eq_value_iff (by decide) _).2
      ⟨sign, hsign, digits, rfl, hne, hdigits, hvalue.trans (r.extend_zero digits).symm, hword⟩⟩

end Literal

/-- Whether a plus sign is in a text decides which sign a number is spelled with. -/
theorem Spells.plus_mem_iff {sign text : List Char} {v : ℕ} (h : Spells sign text v) :
    '+' ∈ text ↔ '+' ∈ sign := by
  obtain ⟨bare, hbare, r, mark, hmark, digits, rfl, -, hdigits, -⟩ := h
  have hmark : '+' ∉ mark := by
    have hall : ∀ r : Radix, ∀ mark ∈ r.marks, '+' ∉ mark := by
      intro r
      cases r <;> simp [Radix.marks]
    exact hall r mark hmark
  have hdigits : '+' ∉ digits := fun hc => Radix.ne_of_isDigit (hdigits _ hc) (by decide) rfl
  rw [hbare.mem_iff (by decide) (by decide) (by decide)]
  simp [hmark, hdigits]

/-- **What is read as a day count spells one, but for a plus sign.** A text without a plus sign is
read as a day count iff it is a mark and digits and stands for that count. A text with one is read
as a day count iff the plus sign is the only one and stands between the mark and the digits. -/
theorem days_read_iff_spelled (text : List Char) (v : ℕ) :
    (Literal.read text = .days v ∧ '+' ∉ text ↔ v ≤ 65535 ∧ Spells [] text v) ∧
    (Literal.read text = .days v ∧ '+' ∈ text ↔ v ≤ 65535 ∧ Spells ['+'] text v) := by
  have hread : Literal.read text = .days v ↔
      v ≤ 65535 ∧ (Spells [] text v ∨ Spells ['+'] text v) := by
    simpa [passedSigns] using @Literal.read_eq_days_iff text v
  have hplain : Spells [] text v → '+' ∉ text := fun h => by simp [h.plus_mem_iff]
  have hplus : Spells ['+'] text v → '+' ∈ text := fun h => by simp [h.plus_mem_iff]
  rw [hread]
  tauto

/-- A plus sign in front of a number, or behind its mark, is read over, although what is left is no
number; a usage with such a cost declares days. -/
theorem plus_sign_is_read_over :
    Literal.read "+5".toList = .days 5 ∧ Literal.read "0x+1F".toList = .days 31 ∧
    (¬ ∃ v, Spells [] "+5".toList v) ∧ (¬ ∃ v, Spells [] "0x+1F".toList v) ∧
    (usageOfCost "+5").remediationDays = .ok 5 := by
  have hnone : ∀ text : String, '+' ∈ text.toList → ¬ ∃ v, Spells [] text.toList v := by
    rintro text hplus ⟨v, hv⟩
    simpa using hv.plus_mem_iff.1 hplus
  exact ⟨by decide, by decide, hnone "+5" (by decide), hnone "0x+1F" (by decide), by decide⟩

end DeclaredDebt
