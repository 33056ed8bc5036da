import DeclaredDebt.CSharp.Lexeme
import DeclaredDebt.Proofs.IntegerLiteral
import DeclaredDebt.Proofs.UsageDebt

/-!
# Real literals as costs

A real literal of C# has a fraction, an exponent or a suffix behind its whole digits, and whichever
of them comes first starts with a character that is no digit. Digits are read from left to right,
so that character tells the literal from an integer, but only if the reading gets there: whole
digits that do not fit a word are given up before. A real literal is therefore no integer, and
costs nothing, exactly as long as its whole digits fit a word; beyond that it is taken for an
overflow.

## Main definitions

* `DigitRun`, `Exponent`, `RealLiteral`: a real literal in its parts.
* `RealLiteral.text`: the literal as it is written.
* `RealLiteral.wholeValue`: what the digits before the fraction, exponent or suffix stand for.
-/

namespace DeclaredDebt

/-- A run of decimal digits. It starts with a digit, and low lines may stand among those behind. -/
structure DigitRun where
  first : Char
  others : List Char
  first_isDigit : Radix.decimal.isDigit first = true
  others_all : (others.all fun c => Radix.decimal.isDigit c || c == '_') = true

def DigitRun.text (r : DigitRun) : List Char := r.first :: r.others

/-- The exponent of a real literal, with or without a sign. -/
structure Exponent where
  letter : Char
  sign : List Char
  digits : DigitRun
  letter_mem : letter ∈ ['e', 'E']
  sign_mem : sign ∈ [[], ['+'], ['-']]

def Exponent.text (e : Exponent) : List Char := e.letter :: (e.sign ++ e.digits.text)

/-- The letters that make a number a real one. -/
def realSuffixes : List Char := ['f', 'F', 'd', 'D', 'm', 'M']

/-- A real literal: whole digits or none, and behind them at least one of a fraction, an exponent
and a suffix. -/
structure RealLiteral where
  whole? : Option DigitRun
  fraction? : Option DigitRun
  exponent? : Option Exponent
  suffix? : Option Char
  suffix_mem : ∀ c ∈ suffix?, c ∈ realSuffixes
  isReal : (fraction?.isSome || exponent?.isSome || suffix?.isSome) = true

namespace RealLiteral

/-- The whole digits as they are written. -/
def wholeText (l : RealLiteral) : List Char := l.whole?.elim [] DigitRun.text

/-- What stands behind the whole digits. -/
def tail (l : RealLiteral) : List Char :=
  l.fraction?.elim [] (fun r => '.' :: r.text) ++
    (l.exponent?.elim [] Exponent.text ++ l.suffix?.elim [] ([·]))

/-- The literal as it is written. -/
def text (l : RealLiteral) : List Char := l.wholeText ++ l.tail

/-- The whole digits without the low lines between them. -/
def bareWhole (l : RealLiteral) : List Char := l.wholeText.filter (· ≠ '_')

/-- The number that the whole digits stand for. -/
def wholeValue (l : RealLiteral) : ℕ :=
  Nat.ofDigits 10 (l.bareWhole.map Radix.digitValue).reverse

end RealLiteral

/-! ## Characters -/

namespace RealLiteral

/-- The characters that real literals are written with. -/
def characters : List Char :=
  ['0', '1', '2', '3', '4', '5', '6', '7', '8', '9', '_', '.', 'e', 'E', '+', '-',
   'f', 'F', 'd', 'D', 'm', 'M']

/-- The characters that can stand right behind the whole digits. -/
def tailStarts : List Char := ['.', 'e', 'E', 'f', 'F', 'd', 'D', 'm', 'M']

theorem mem_characters_of_isDigit {c : Char} (h : Radix.decimal.isDigit c = true) :
    c ∈ characters := by
  have hmem := Radix.of_isDigit
    (fun c => !Radix.decimal.isDigit c || decide (c ∈ characters)) h (by decide)
  simpa [h] using hmem

theorem mem_characters_digitRun {r : DigitRun} {c : Char} (h : c ∈ r.text) : c ∈ characters := by
  rcases List.mem_cons.1 h with rfl | h
  · exact mem_characters_of_isDigit r.first_isDigit
  · have hother := List.all_eq_true.1 r.others_all c h
    rw [Bool.or_eq_true, beq_iff_eq] at hother
    rcases hother with hdigit | rfl
    · exact mem_characters_of_isDigit hdigit
    · decide

theorem mem_characters_exponent {e : Exponent} {c : Char} (h : c ∈ e.text) : c ∈ characters := by
  rcases List.mem_cons.1 h with rfl | h
  · have hletter : ∀ c ∈ ['e', 'E'], c ∈ characters := by simp [characters]
    exact hletter _ e.letter_mem
  · rcases List.mem_append.1 h with h | h
    · have hsign : ∀ sign ∈ [[], ['+'], ['-']], ∀ c ∈ sign, c ∈ characters := by
        simp [characters]
      exact hsign _ e.sign_mem _ h
    · exact mem_characters_digitRun h

theorem mem_characters {l : RealLiteral} {c : Char} (h : c ∈ l.text) : c ∈ characters := by
  simp only [text, wholeText, tail, List.mem_append] at h
  rcases h with h | h | h | h
  · cases hwhole : l.whole? with
    | none => simp [hwhole] at h
    | some r => exact mem_characters_digitRun (r := r) (by simpa [hwhole] using h)
  · cases hfraction : l.fraction? with
    | none => simp [hfraction] at h
    | some r =>
      simp only [hfraction, Option.elim_some, List.mem_cons] at h
      rcases h with rfl | h
      · decide
      · exact mem_characters_digitRun h
  · cases hexponent : l.exponent? with
    | none => simp [hexponent] at h
    | some e => exact mem_characters_exponent (e := e) (by simpa [hexponent] using h)
  · cases hsuffix : l.suffix? with
    | none => simp [hsuffix] at h
    | some letter =>
      simp only [hsuffix, Option.elim_some, List.mem_singleton] at h
      have hletter : ∀ c ∈ realSuffixes, c ∈ characters := by simp [realSuffixes, characters]
      exact h ▸ hletter letter (l.suffix_mem letter hsuffix)

/-- What holds of all characters of real literals can be checked on the list of them. -/
theorem of_mem_text {l : RealLiteral} {c : Char} (p : Char → Bool) (h : c ∈ l.text)
    (hall : characters.all p = true) : p c = true :=
  List.all_eq_true.1 hall c (mem_characters h)

/-- Behind the whole digits comes something that is no digit. -/
theorem exists_tail_eq (l : RealLiteral) : ∃ c rest, l.tail = c :: rest ∧ c ∈ tailStarts := by
  obtain ⟨whole?, fraction?, exponent?, suffix?, hsuffix, hreal⟩ := l
  cases fraction? with
  | some r => exact ⟨'.', _, rfl, by decide⟩
  | none =>
    cases exponent? with
    | some e =>
      have hletter : ∀ c ∈ ['e', 'E'], c ∈ tailStarts := by simp [tailStarts]
      exact ⟨e.letter, _, rfl, hletter _ e.letter_mem⟩
    | none =>
      cases suffix? with
      | some letter =>
        have hletter : ∀ c ∈ realSuffixes, c ∈ tailStarts := by simp [realSuffixes, tailStarts]
        exact ⟨letter, _, rfl, hletter _ (hsuffix _ rfl)⟩
      | none => cases hreal

/-! ## Reading -/

theorem isDigit_of_mem_bareWhole {l : RealLiteral} {c : Char} (h : c ∈ l.bareWhole) :
    Radix.decimal.isDigit c = true := by
  obtain ⟨hmem, hne⟩ := List.mem_filter.1 h
  unfold wholeText at hmem
  cases hwhole : l.whole? with
  | none => simp [hwhole] at hmem
  | some r =>
    rw [hwhole] at hmem
    rcases List.mem_cons.1 hmem with rfl | hmem
    · exact r.first_isDigit
    · have hother := List.all_eq_true.1 r.others_all c hmem
      simpa [show c ≠ '_' by simpa using hne] using hother

/-- A real literal has no suffix of an integer, so only its low lines are left out. -/
theorem body_text (l : RealLiteral) : Literal.body l.text = l.text.filter (· ≠ '_') := by
  have hblank : ∀ c ∈ l.text, Text.isBlank c = false := by
    intro c hc
    simpa using of_mem_text (fun c => !Text.isBlank c) hc (by decide)
  have hlast : ∀ c ∈ (l.text.filter (· ≠ '_')).getLast?, Literal.isSuffixLetter c = false := by
    intro c hc
    have hmem : c ∈ l.text := List.mem_of_mem_filter (List.mem_of_getLast? hc)
    simpa using of_mem_text (fun c => !Literal.isSuffixLetter c) hmem (by decide)
  have hnone : ∀ c ∈ ([] : List Char), Literal.isSuffixLetter c = true := by simp
  have hdrop := Text.dropEndWhile_append hnone hlast
  unfold Literal.body
  rw [Text.trim_eq_self hblank]
  rwa [List.append_nil] at hdrop

end RealLiteral

/-- Without the letter of a mark, a text is read in decimal. -/
theorem Literal.radixAndDigits_of_forall {text : List Char}
    (h : ∀ c ∈ text, c ∉ ['x', 'X', 'b', 'B']) : radixAndDigits text = (10, text) := by
  unfold radixAndDigits
  split <;> simp_all

theorem Text.readNat_of_ne_plus {limit radix : ℕ} {c : Char} {rest : List Char} (h : c ≠ '+') :
    Text.readNat limit radix (c :: rest) = Text.readDigits limit radix 0 (c :: rest) := by
  unfold Text.readNat
  split <;> simp_all

namespace RealLiteral

/-- The whole digits are read up to what stands behind them, if they fit below the limit. -/
theorem readNat_filter (l : RealLiteral) {limit : ℕ} (hlimit : 0 < limit) :
    Text.readNat limit 10 (l.text.filter (· ≠ '_')) =
      if l.wholeValue < limit then .badDigit else .tooLarge := by
  obtain ⟨c, rest, htail, hc⟩ := l.exists_tail_eq
  have hstarts : tailStarts.all
      (fun c => c != '_' && c != '+' && (Text.digitValue? 10 c).isNone) = true := by decide
  have hstart := List.all_eq_true.1 hstarts c hc
  simp only [Bool.and_eq_true, bne_iff_ne, Option.isNone_iff_eq_none] at hstart
  obtain ⟨⟨hline, hplus⟩, hbad⟩ := hstart
  have htext : l.text.filter (· ≠ '_') = l.bareWhole ++ c :: rest.filter (· ≠ '_') := by
    rw [text, htail, List.filter_append, List.filter_cons_of_pos (by simpa using hline), bareWhole]
  have hplain : Text.readNat limit 10 (l.bareWhole ++ c :: rest.filter (· ≠ '_')) =
      Text.readDigits limit 10 0 (l.bareWhole ++ c :: rest.filter (· ≠ '_')) := by
    cases hwhole : l.bareWhole with
    | nil => exact Text.readNat_of_ne_plus hplus
    | cons d digits =>
      have hdigit := isDigit_of_mem_bareWhole (l := l) (c := d) (by simp [hwhole])
      exact Text.readNat_of_ne_plus (Radix.ne_of_isDigit hdigit (by decide))
  have hdigits := Radix.readDigits_append l.bareWhole (c :: rest.filter (· ≠ '_'))
    (fun c => isDigit_of_mem_bareWhole) hlimit
  rw [Radix.extend_zero] at hdigits
  rw [htext, hplain]
  refine hdigits.trans ?_
  rw [Text.readDigits, Radix.base, hbad, wholeValue]

/-- **A real literal is no integer as long as its whole digits fit a word**, and an overflow
beyond that. -/
theorem read_text (l : RealLiteral) :
    Literal.read l.text = if l.wholeValue < 2 ^ 64 then .notInteger else .overflow := by
  have hradix : Literal.radixAndDigits (l.text.filter (· ≠ '_')) =
      (10, l.text.filter (· ≠ '_')) := by
    refine Literal.radixAndDigits_of_forall ?_
    intro c hc
    have hmem : c ∈ l.text := List.mem_of_mem_filter hc
    simpa using of_mem_text (fun c => decide (c ∉ ['x', 'X', 'b', 'B'])) hmem (by decide)
  have hlimit : Literal.wordLimit = 2 ^ 64 := rfl
  have hread := l.readNat_filter (Nat.two_pow_pos 64)
  unfold Literal.read
  rw [body_text, hradix, hlimit]
  simp only [hread]
  by_cases hword : l.wholeValue < 2 ^ 64
  · rw [if_pos hword, if_pos hword]
  · rw [if_neg hword, if_neg hword]

end RealLiteral

/-! ## The real numbers of a source -/

namespace CSharp

theorem isDigit_of_charIsDigit {c : Char} (h : c.isDigit = true) :
    Radix.decimal.isDigit c = true := by
  obtain ⟨hlow, hhigh⟩ := Char.isDigit_iff_toNat.1 h
  have hall : ∀ n < 58, 48 ≤ n → Radix.decimal.isDigit (Char.ofNat n) = true := by decide
  have hdigit := hall c.toNat (Nat.lt_succ_of_le hhigh) hlow
  rwa [Char.ofNat_toNat] at hdigit

theorem of_mem_take_runLength {p : Char → Bool} {text : List Char} {c : Char}
    (h : c ∈ text.take (runLength p text)) : p c = true := by
  induction text with
  | nil => simp at h
  | cons d rest ih =>
    rw [runLength] at h
    split at h
    · next hd =>
      rw [List.take_succ_cons, List.mem_cons] at h
      rcases h with rfl | h
      · exact hd
      · exact ih h
    · simp at h

/-- A digit and what follows of digits and low lines is a run of digits, of any length. -/
theorem exists_digitRun_take {c : Char} {rest : List Char} (hc : c.isDigit = true) {n : ℕ}
    (hpos : n ≠ 0) (hle : n ≤ runLength (fun c => c.isDigit || c == '_') (c :: rest)) :
    ∃ r : DigitRun, r.text = (c :: rest).take n := by
  obtain ⟨n, rfl⟩ := Nat.exists_eq_succ_of_ne_zero hpos
  refine ⟨⟨c, rest.take n, isDigit_of_charIsDigit hc, ?_⟩, rfl⟩
  rw [List.all_eq_true]
  intro d hd
  have hrun : d ∈ (c :: rest).take (runLength (fun c => c.isDigit || c == '_') (c :: rest)) :=
    List.take_subset_take_left _ hle (List.mem_cons_of_mem c hd)
  have hclass := of_mem_take_runLength hrun
  rw [Bool.or_eq_true] at hclass ⊢
  exact hclass.imp isDigit_of_charIsDigit id

theorem exists_digitRun (text : List Char) (h : decimalLength text ≠ 0) :
    ∃ r : DigitRun, r.text = text.take (decimalLength text) := by
  cases text with
  | nil => exact absurd rfl h
  | cons c rest =>
    by_cases hc : c.isDigit = true
    · have hlength : decimalLength (c :: rest) = digitsLength Char.isDigit (c :: rest) := by
        simp [decimalLength, hc]
      refine exists_digitRun_take hc h ?_
      rw [hlength, digitsLength]
      exact (Nat.sub_le _ _).trans (List.length_take_le _ _)
    · simp [decimalLength, hc] at h

theorem exists_fraction (text : List Char) (h : fractionLength text ≠ 0) :
    ∃ r : DigitRun, '.' :: r.text = text.take (fractionLength text) := by
  unfold fractionLength at h ⊢
  split at h
  · next rest =>
    split at h
    · exact absurd rfl h
    · next hlength =>
      obtain ⟨r, hr⟩ := exists_digitRun _ hlength
      exact ⟨r, congrArg ('.' :: ·) hr⟩
  · exact absurd rfl h

/-- Behind the letter of an exponent stands a sign or nothing, and then its digits. -/
theorem exponentLength_cons {letter : Char} (h : letter = 'e' ∨ letter = 'E')
    (rest : List Char) :
    ∃ sign digits, rest = sign ++ digits ∧ sign ∈ [[], ['+'], ['-']] ∧
      exponentLength (letter :: rest) =
        match digits with
        | c :: _ =>
          if c.isDigit then
            1 + sign.length + runLength (fun c => c.isDigit || c == '_') digits
          else 0
        | [] => 0 := by
  have hlength := exponentLength.eq_def (letter :: rest)
  dsimp -zeta -zetaHave only at hlength
  rw [if_pos (by simpa using h)] at hlength
  extract_lets signLength digits at hlength
  obtain ⟨sign, hrest, hmem, hsign⟩ : ∃ sign, rest = sign ++ digits ∧
      sign ∈ [[], ['+'], ['-']] ∧ signLength = sign.length := by
    simp only [digits, signLength]
    split
    · exact ⟨['+'], rfl, by simp, rfl⟩
    · exact ⟨['-'], rfl, by simp, rfl⟩
    · exact ⟨[], rfl, by simp, rfl⟩
  rw [hsign] at hlength
  exact ⟨sign, digits, hrest, hmem, hlength⟩

theorem exists_exponent {text : List Char} (h : exponentLength text ≠ 0) :
    ∃ e : Exponent, e.text = text.take (exponentLength text) := by
  cases text with
  | nil => exact absurd rfl h
  | cons letter rest =>
    by_cases hletter : letter = 'e' ∨ letter = 'E'
    · obtain ⟨sign, digits, rfl, hsign, hlength⟩ := exponentLength_cons hletter rest
      cases digits with
      | nil => exact absurd hlength h
      | cons c digits =>
        by_cases hc : c.isDigit = true
        · have hpos : runLength (fun c => c.isDigit || c == '_') (c :: digits) ≠ 0 := by
            simp [runLength, hc]
          obtain ⟨r, hr⟩ := exists_digitRun_take hc hpos le_rfl
          refine ⟨⟨letter, sign, r, by simpa using hletter, hsign⟩, ?_⟩
          simp only [hc, if_true] at hlength
          rw [hlength, Nat.add_assoc, Nat.add_comm 1, List.take_succ_cons,
            List.take_length_add_append, Exponent.text, hr]
        · simp [hlength, hc] at h
    · simp [exponentLength, hletter] at h

theorem exists_realSuffix {text : List Char} (h : realSuffixLength text ≠ 0) :
    ∃ c : {c : Char // c ∈ realSuffixes}, [c.val] = text.take (realSuffixLength text) := by
  cases text with
  | nil => exact absurd rfl h
  | cons c rest =>
    have hlength : realSuffixLength (c :: rest) = if c ∈ realSuffixes then 1 else 0 := by
      simp [realSuffixLength, realSuffixes]
    by_cases hc : c ∈ realSuffixes
    · exact ⟨⟨c, hc⟩, by simp [hlength, hc]⟩
    · simp [hlength, hc] at h

/-- A part that may be missing is there exactly if it has a length. -/
theorem exists_option {α : Type} (f : α → List Char) {text : List Char} {n : ℕ}
    (h : n ≠ 0 → ∃ a, f a = text.take n) :
    ∃ a? : Option α, a?.elim [] f = text.take n ∧ (a?.isSome = true ↔ n ≠ 0) := by
  by_cases hn : n = 0
  · exact ⟨none, by simp [hn], by simp [hn]⟩
  · obtain ⟨a, ha⟩ := h hn
    exact ⟨some a, ha, by simp [hn]⟩

/-- A real number is as long as its parts, and one of those behind its whole digits is there. -/
theorem of_number?_eq_real {text : List Char} {n : ℕ} (h : number? text = some (.real, n)) :
    ∃ whole fraction exponent suffix, whole = decimalLength text ∧
      fraction = fractionLength (text.drop whole) ∧
      (exponent ≠ 0 → exponent = exponentLength (text.drop (whole + fraction))) ∧
      (suffix ≠ 0 → suffix = realSuffixLength (text.drop (whole + fraction + exponent))) ∧
      0 < fraction + exponent + suffix ∧ n = whole + fraction + exponent + suffix := by
  unfold number? at h
  extract_lets radix whole fraction exponent body suffix at h
  refine ⟨whole, fraction, exponent, suffix, rfl, rfl, ?_, ?_, ?_⟩
  · intro hne
    by_cases hzero : whole + fraction = 0 <;> simp_all [exponent]
  · intro hne
    by_cases hzero : body = 0 <;> simp_all [suffix, body]
  · by_cases hradix : 0 < radix
    · simp [hradix] at h
    · by_cases hreal : 0 < fraction + exponent + suffix
      · simp only [hradix, hreal, if_true, if_false, Option.some.injEq, Prod.mk.injEq] at h
        exact ⟨hreal, h.2.symm⟩
      · by_cases hwhole : 0 < whole <;> simp [hradix, hreal, hwhole] at h

/-- **Every real number of a source is a real literal.** -/
theorem exists_realLiteral {text : List Char} {n : ℕ} (h : number? text = some (.real, n)) :
    ∃ l : RealLiteral, l.text = text.take n := by
  obtain ⟨whole, fraction, exponent, suffix, rfl, rfl, hexponent, hsuffix, hreal, rfl⟩ :=
    of_number?_eq_real h
  obtain ⟨whole?, hwholeText, -⟩ := exists_option DigitRun.text (exists_digitRun text)
  obtain ⟨fraction?, hfractionText, hfraction⟩ := exists_option (fun r : DigitRun => '.' :: r.text)
    (exists_fraction (text.drop (decimalLength text)))
  obtain ⟨exponent?, hexponentText, hexponent⟩ := exists_option (n := exponent) Exponent.text
    (fun hne => hexponent hne ▸ exists_exponent (hexponent hne ▸ hne))
  obtain ⟨suffix?, hsuffixText, hsuffix⟩ := exists_option (n := suffix)
    (fun c : {c : Char // c ∈ realSuffixes} => [c.val])
    (fun hne => hsuffix hne ▸ exists_realSuffix (hsuffix hne ▸ hne))
  refine ⟨⟨whole?, fraction?, exponent?, suffix?.map Subtype.val, ?_, ?_⟩, ?_⟩
  · intro c hc
    obtain ⟨letter, -, rfl⟩ := Option.map_eq_some_iff.1 hc
    exact letter.property
  · simp only [Option.isSome_map, Bool.or_eq_true, hfraction, hexponent, hsuffix]
    omega
  · have hletter : (suffix?.map Subtype.val).elim [] ([·]) =
        suffix?.elim [] (fun c : {c : Char // c ∈ realSuffixes} => [c.val]) := by
      cases suffix? <;> rfl
    rw [RealLiteral.text, RealLiteral.wholeText, RealLiteral.tail, hletter, hwholeText,
      hfractionText, hexponentText, hsuffixText, List.take_add, List.take_add, List.take_add,
      List.append_assoc, List.append_assoc]

end CSharp

/-! ## Costs -/

/-- A usage with a real literal for its cost declares no days, or fails as the literal does. -/
theorem Usage.debt?_of_realLiteral {u : Usage} {name : String} {l : RealLiteral}
    (hname : u.resolvedName = .ok name) (htarget : isTargetName name = true)
    (hliteral : u.costLiteral? = some (String.ofList l.text)) :
    u.debt? =
      if l.wholeValue < 2 ^ 64 then .ok (some ⟨name, u.displayName, u.location, 0⟩)
      else .error (.overflow (String.ofList l.text) u.location) := by
  rw [debt?_of_isTargetName hname htarget, remediationDays_of_costLiteral? hliteral,
    String.toList_ofList, l.read_text]
  by_cases hword : l.wholeValue < 2 ^ 64
  · rw [if_pos hword, if_pos hword]
    rfl
  · rw [if_neg hword, if_neg hword]
    rfl

/-- **Real literals as costs.** A real literal is no integer and a usage with it declares no days,
provided that the whole digits fit a word; a real literal with more whole digits is taken for an
overflow. By `CSharp.exists_realLiteral`, these are all the real numbers that a source can have. -/
theorem cost_of_realLiteral (l : RealLiteral) :
    (Literal.read l.text = if l.wholeValue < 2 ^ 64 then .notInteger else .overflow) ∧
    ∀ (u : Usage) (name : String), u.resolvedName = .ok name →
      isTargetName name = true → u.costLiteral? = some (String.ofList l.text) →
      u.debt? =
        if l.wholeValue < 2 ^ 64 then .ok (some ⟨name, u.displayName, u.location, 0⟩)
        else .error (.overflow (String.ofList l.text) u.location) :=
  ⟨l.read_text, fun _ _ => Usage.debt?_of_realLiteral⟩

/-- The literal `1_2.5e-3f`, with all parts of a real literal. -/
def fullReal : RealLiteral where
  whole? := some ⟨'1', ['_', '2'], by decide, by decide⟩
  fraction? := some ⟨'5', [], by decide, by decide⟩
  exponent? := some ⟨'e', ['-'], ⟨'3', [], by decide, by decide⟩, by decide, by decide⟩
  suffix? := some 'f'
  suffix_mem := by
    rintro c ⟨⟩
    decide
  isReal := rfl

/-- A usage with a number for its cost. -/
def usageOfCost (literal : String) : Usage where
  name? := some (.simple "ManualTechnicalDebt")
  displayName := "ManualTechnicalDebt"
  arguments := [⟨some costArgumentName, some literal⟩]
  location := ⟨⟨"Debt.cs"⟩, 3, 6, 40, 90⟩

theorem cost_of_fullReal :
    fullReal.text = "1_2.5e-3f".toList ∧ fullReal.wholeValue = 12 ∧
    (usageOfCost "1_2.5e-3f").debt? =
      .ok (some ⟨"ManualTechnicalDebt", "ManualTechnicalDebt", (usageOfCost "").location, 0⟩) := by
  have hdebt := (cost_of_realLiteral fullReal).2 (usageOfCost "1_2.5e-3f") "ManualTechnicalDebt"
    (by decide) (by decide) (by decide)
  have hvalue : fullReal.wholeValue = 12 := by decide
  rw [hvalue, if_pos (by decide)] at hdebt
  exact ⟨by decide, hvalue, hdebt⟩

/-- A real literal with too many whole digits is not taken for what it is, and a usage with it for
its cost is an error. -/
theorem cost_of_huge_real :
    CSharp.number? "18446744073709551616.5".toList = some (.real, 22) ∧
    (∃ l : RealLiteral, l.text = "18446744073709551616.5".toList) ∧
    Literal.read "18446744073709551616.5".toList = .overflow ∧
    (usageOfCost "18446744073709551616.5").debt? =
      .error (.overflow "18446744073709551616.5" (usageOfCost "").location) := by
  have hreal : CSharp.number? "18446744073709551616.5".toList = some (.real, 22) := by
    decide +kernel
  exact ⟨hreal, CSharp.exists_realLiteral hreal, by decide +kernel, by decide +kernel⟩

end DeclaredDebt
