import DeclaredDebt.Literal
import Mathlib

/-!
# Every integer literal has its value

An integer literal of C# is read as the number it stands for, however long it is. Its digits are
read from left to right and given up as soon as they pass the limit of a word, which is no loss:
more digits never make a value smaller, and the limit of a word is far above the largest day count.

## Main definitions

* `Radix`: decimal, hexadecimal and binary, each with its digits and marks.
* `IntegerLiteral`: an integer literal in its parts; `IntegerLiteral.text` puts them together.
* `IntegerLiteral.value`: what a literal stands for.
-/

namespace DeclaredDebt

/-- The radix of an integer literal. -/
inductive Radix where
  | decimal
  | hexadecimal
  | binary
  deriving DecidableEq

namespace Radix

def base : Radix → ℕ
  | .decimal => 10
  | .hexadecimal => 16
  | .binary => 2

/-- What a literal can start with before its digits. -/
def marks : Radix → List (List Char)
  | .decimal => [[]]
  | .hexadecimal => [['0', 'x'], ['0', 'X']]
  | .binary => [['0', 'b'], ['0', 'B']]

/-- The digits in the order of their values, with small letters. -/
def smallDigits : List Char :=
  ['0', '1', '2', '3', '4', '5', '6', '7', '8', '9', 'a', 'b', 'c', 'd', 'e', 'f']

/-- The digits in the order of their values, with capital letters. -/
def capitalDigits : List Char :=
  ['0', '1', '2', '3', '4', '5', '6', '7', '8', '9', 'A', 'B', 'C', 'D', 'E', 'F']

/-- The value of a digit, which is its position among the digits. -/
def digitValue (c : Char) : ℕ := min (smallDigits.idxOf c) (capitalDigits.idxOf c)

/-- Whether a character is a digit of a radix. -/
def isDigit (r : Radix) (c : Char) : Bool := digitValue c < r.base

end Radix

/-- An integer literal. Low lines may stand anywhere between its digits, before and behind them, and
the letters of its suffix may be any. -/
structure IntegerLiteral where
  radix : Radix
  mark : List Char
  digits : List Char
  suffix : List Char
  mark_mem : mark ∈ radix.marks
  digits_all : (digits.all fun c => radix.isDigit c || c == '_') = true
  digits_any : digits.any radix.isDigit = true
  suffix_all : suffix.all ['u', 'U', 'l', 'L'].contains = true

namespace IntegerLiteral

/-- The literal as it is written. -/
def text (l : IntegerLiteral) : List Char := l.mark ++ l.digits ++ l.suffix

/-- The digits without the low lines between them. -/
def bareDigits (l : IntegerLiteral) : List Char := l.digits.filter (· ≠ '_')

/-- The number a literal stands for. -/
def value (l : IntegerLiteral) : ℕ :=
  Nat.ofDigits l.radix.base (l.bareDigits.map Radix.digitValue).reverse

end IntegerLiteral

/-! ## Digits -/

namespace Radix

variable {r : Radix} {c : Char}

theorem base_pos (r : Radix) : 0 < r.base := by
  cases r <;> decide

theorem base_le (r : Radix) : r.base ≤ 16 := by
  cases r <;> decide

theorem mem_of_isDigit (h : r.isDigit c = true) : c ∈ smallDigits ++ capitalDigits := by
  have hlt : digitValue c < 16 := lt_of_lt_of_le (by simpa [isDigit] using h) r.base_le
  rcases min_lt_iff.1 hlt with hsmall | hcapital
  · exact List.mem_append_left _ (List.idxOf_lt_length_iff.1 hsmall)
  · exact List.mem_append_right _ (List.idxOf_lt_length_iff.1 hcapital)

/-- What all digits have in common can be checked on the list of them. -/
theorem of_isDigit (p : Char → Bool) (h : r.isDigit c = true)
    (hall : (smallDigits ++ capitalDigits).all p = true) : p c = true :=
  List.all_eq_true.1 hall c (mem_of_isDigit h)

theorem ne_of_isDigit {d : Char} (h : r.isDigit c = true)
    (hd : d ∉ smallDigits ++ capitalDigits) : c ≠ d :=
  fun hcd => hd (hcd ▸ mem_of_isDigit h)

theorem digitValue?_smallDigits : ∀ i : Fin smallDigits.length,
    Text.digitValue? 16 (smallDigits.get i) = some i.val := by
  decide

theorem digitValue?_capitalDigits : ∀ i : Fin capitalDigits.length,
    Text.digitValue? 16 (capitalDigits.get i) = some i.val := by
  decide

/-- The position of a digit among the digits is the value it is read with. -/
theorem digitValue?_sixteen (h : digitValue c < 16) :
    Text.digitValue? 16 c = some (digitValue c) := by
  rcases le_total (smallDigits.idxOf c) (capitalDigits.idxOf c) with hle | hle
  · have hvalue : digitValue c = smallDigits.idxOf c := min_eq_left hle
    have hlt : smallDigits.idxOf c < smallDigits.length := hvalue ▸ h
    have hget := digitValue?_smallDigits ⟨_, hlt⟩
    rw [hvalue]
    rwa [List.idxOf_get] at hget
  · have hvalue : digitValue c = capitalDigits.idxOf c := min_eq_right hle
    have hlt : capitalDigits.idxOf c < capitalDigits.length := hvalue ▸ h
    have hget := digitValue?_capitalDigits ⟨_, hlt⟩
    rw [hvalue]
    rwa [List.idxOf_get] at hget

/-- A digit has the same value in every radix that has it. -/
theorem digitValue?_of_isDigit (h : r.isDigit c = true) :
    Text.digitValue? r.base c = some (digitValue c) := by
  have hlt : digitValue c < r.base := by simpa [isDigit] using h
  have hsixteen := digitValue?_sixteen (lt_of_lt_of_le hlt r.base_le)
  simp only [Text.digitValue?, Option.bind_eq_some_iff] at hsixteen ⊢
  obtain ⟨d, hd, hvalue⟩ := hsixteen
  rw [Option.ite_none_right_eq_some] at hvalue
  obtain ⟨-, hdc⟩ := hvalue
  refine ⟨d, hd, ?_⟩
  rw [hdc, if_pos (Option.some.inj hdc ▸ hlt)]

/-- What the digits of a text stand for behind a value already read. -/
def extend (r : Radix) (value : ℕ) (digits : List Char) : ℕ :=
  digits.foldl (fun n c => n * r.base + digitValue c) value

/-- More digits never make a value smaller. -/
theorem le_extend (r : Radix) (value : ℕ) (digits : List Char) : value ≤ r.extend value digits := by
  induction digits generalizing value with
  | nil => exact le_rfl
  | cons c digits ih =>
    calc
      value ≤ value * r.base := Nat.le_mul_of_pos_right value r.base_pos
      _ ≤ value * r.base + digitValue c := Nat.le_add_right _ _
      _ ≤ r.extend value (c :: digits) := ih _

/-- Digits in front of a text are read to their value, and the text behind that; or they are given
up because their value is too large, and the text is not looked at. -/
theorem readDigits_append {limit : ℕ} (digits rest : List Char)
    (hdigits : ∀ c ∈ digits, r.isDigit c = true) {value : ℕ} (hvalue : value < limit) :
    Text.readDigits limit r.base value (digits ++ rest) =
      if r.extend value digits < limit then
        Text.readDigits limit r.base (r.extend value digits) rest
      else .tooLarge := by
  induction digits generalizing value with
  | nil => simp [extend, hvalue]
  | cons c digits ih =>
    rw [List.cons_append, Text.readDigits, digitValue?_of_isDigit (hdigits c (by simp))]
    have hstep : r.extend value (c :: digits) =
        r.extend (value * r.base + digitValue c) digits := rfl
    simp only
    split
    · next hlt => rw [ih (fun d hd => hdigits d (by simp [hd])) hlt, hstep]
    · next hge =>
      have hle := r.le_extend (value * r.base + digitValue c) digits
      rw [hstep, if_neg (by omega)]

/-- Digits are read to their value, or given up because their value is too large. -/
theorem readDigits_eq {limit : ℕ} (digits : List Char) (hdigits : ∀ c ∈ digits, r.isDigit c = true)
    {value : ℕ} (hvalue : value < limit) :
    Text.readDigits limit r.base value digits =
      if r.extend value digits < limit then .value (r.extend value digits) else .tooLarge := by
  have hread := readDigits_append digits [] hdigits hvalue
  rwa [List.append_nil] at hread

theorem extend_zero (r : Radix) (digits : List Char) :
    r.extend 0 digits = Nat.ofDigits r.base (digits.map digitValue).reverse := by
  rw [Nat.ofDigits_eq_foldr, List.foldr_reverse, List.foldl_map, extend]
  simp [Nat.mul_comm, Nat.add_comm]

end Radix

/-! ## The body of a literal -/

theorem Text.trim_eq_self {text : List Char} (h : ∀ c ∈ text, Text.isBlank c = false) :
    Text.trim text = text := by
  have hdrop : ∀ l : List Char, (∀ c ∈ l, Text.isBlank c = false) →
      l.dropWhile Text.isBlank = l := by
    intro l hl
    cases l with
    | nil => rfl
    | cons c l => simp [hl c (by simp)]
  unfold Text.trim Text.dropEndWhile
  rw [hdrop text h, hdrop text.reverse (by simpa using h), List.reverse_reverse]

/-- Of a text with a class at its end, the class is removed up to a character that is not in it. -/
theorem Text.dropEndWhile_append {p : Char → Bool} {front tail : List Char}
    (htail : ∀ c ∈ tail, p c = true) (hfront : ∀ c ∈ front.getLast?, p c = false) :
    Text.dropEndWhile p (front ++ tail) = front := by
  unfold Text.dropEndWhile
  rw [List.reverse_append, List.dropWhile_append_of_pos (by simpa using htail)]
  rcases List.eq_nil_or_concat front with rfl | ⟨start, c, rfl⟩
  · rfl
  · simp [hfront c (by simp)]

namespace IntegerLiteral

variable (l : IntegerLiteral)

theorem isDigit_or_eq_of_mem_digits {c : Char} (h : c ∈ l.digits) :
    l.radix.isDigit c = true ∨ c = '_' := by
  simpa using List.all_eq_true.1 l.digits_all c h

theorem isDigit_of_mem_bareDigits {c : Char} (h : c ∈ l.bareDigits) : l.radix.isDigit c = true := by
  obtain ⟨hmem, hne⟩ := List.mem_filter.1 h
  exact (l.isDigit_or_eq_of_mem_digits hmem).resolve_right (by simpa using hne)

theorem bareDigits_ne_nil : l.bareDigits ≠ [] := by
  obtain ⟨c, hmem, hdigit⟩ := List.any_eq_true.1 l.digits_any
  have hne : c ≠ '_' := Radix.ne_of_isDigit hdigit (by decide)
  exact List.ne_nil_of_mem (List.mem_filter.2 ⟨hmem, by simpa using hne⟩)

theorem isSuffixLetter_of_mem {c : Char} (h : c ∈ l.suffix) :
    Literal.isSuffixLetter c = true ∧ Text.isBlank c = false ∧ c ≠ '_' := by
  have hletter := List.all_eq_true.1 l.suffix_all c h
  simp only [List.contains_eq_mem, List.mem_cons, List.not_mem_nil, or_false,
    decide_eq_true_eq] at hletter
  rcases hletter with rfl | rfl | rfl | rfl <;> decide

/-- A mark is nothing, or a zero and a letter. -/
theorem mark_cases : l.radix = .decimal ∧ l.mark = [] ∨
    ∃ letter ∈ ['x', 'X', 'b', 'B'], l.mark = ['0', letter] ∧
      ∀ digits, Literal.radixAndDigits ('0' :: letter :: digits) = (l.radix.base, digits) := by
  have hmark := l.mark_mem
  cases hradix : l.radix with
  | decimal => exact .inl ⟨rfl, by simpa [hradix, Radix.marks] using hmark⟩
  | hexadecimal =>
    simp only [hradix, Radix.marks, List.mem_cons, List.not_mem_nil, or_false] at hmark
    rcases hmark with hmark | hmark
    · exact .inr ⟨'x', by simp, hmark, fun _ => rfl⟩
    · exact .inr ⟨'X', by simp, hmark, fun _ => rfl⟩
  | binary =>
    simp only [hradix, Radix.marks, List.mem_cons, List.not_mem_nil, or_false] at hmark
    rcases hmark with hmark | hmark
    · exact .inr ⟨'b', by simp, hmark, fun _ => rfl⟩
    · exact .inr ⟨'B', by simp, hmark, fun _ => rfl⟩

theorem isBlank_of_mem_mark {c : Char} (h : c ∈ l.mark) : Text.isBlank c = false ∧ c ≠ '_' := by
  obtain ⟨-, hmark⟩ | ⟨letter, hletter, hmark, -⟩ := l.mark_cases
  · simp [hmark] at h
  · simp only [hmark, List.mem_cons, List.not_mem_nil, or_false] at h hletter
    rcases h with rfl | rfl
    · decide
    · rcases hletter with rfl | rfl | rfl | rfl <;> decide

theorem isBlank_of_mem_text {c : Char} (h : c ∈ l.text) : Text.isBlank c = false := by
  simp only [text, List.mem_append] at h
  rcases h with (hmark | hdigits) | hsuffix
  · exact (l.isBlank_of_mem_mark hmark).1
  · rcases l.isDigit_or_eq_of_mem_digits hdigits with hdigit | rfl
    · simpa using Radix.of_isDigit (fun c => !Text.isBlank c) hdigit (by decide)
    · decide
  · exact (l.isSuffixLetter_of_mem hsuffix).2.1

/-- Without its low lines and its suffix, a literal is its mark and its digits. -/
theorem body_text : Literal.body l.text = l.mark ++ l.bareDigits := by
  have hmark : l.mark.filter (· ≠ '_') = l.mark := by
    refine List.filter_eq_self.2 ?_
    intro c hc
    simpa using (l.isBlank_of_mem_mark hc).2
  have hsuffix : l.suffix.filter (· ≠ '_') = l.suffix := by
    refine List.filter_eq_self.2 ?_
    intro c hc
    simpa using (l.isSuffixLetter_of_mem hc).2.2
  -- The digits end with a digit, and no digit is a letter of a suffix.
  have hlast : ∀ c ∈ (l.mark ++ l.bareDigits).getLast?, Literal.isSuffixLetter c = false := by
    intro c hc
    rw [List.getLast?_append_of_ne_nil _ l.bareDigits_ne_nil] at hc
    have hdigit := l.isDigit_of_mem_bareDigits (List.mem_of_getLast? hc)
    simpa using Radix.of_isDigit (fun c => !Literal.isSuffixLetter c) hdigit (by decide)
  unfold Literal.body
  rw [Text.trim_eq_self fun c hc => l.isBlank_of_mem_text hc, text, List.filter_append,
    List.filter_append, hmark, hsuffix]
  exact Text.dropEndWhile_append (fun c hc => (l.isSuffixLetter_of_mem hc).1) hlast

/-- The mark of a literal decides its radix, and decimal digits start with no mark. -/
theorem radixAndDigits_eq :
    Literal.radixAndDigits (l.mark ++ l.bareDigits) = (l.radix.base, l.bareDigits) := by
  obtain ⟨hradix, hmark⟩ | ⟨letter, -, hmark, hread⟩ := l.mark_cases
  · have hdigit : ∀ c ∈ l.bareDigits, Radix.decimal.isDigit c = true :=
      fun c hc => hradix ▸ l.isDigit_of_mem_bareDigits hc
    have hx : Radix.decimal.isDigit 'x' = false ∧ Radix.decimal.isDigit 'X' = false ∧
        Radix.decimal.isDigit 'b' = false ∧ Radix.decimal.isDigit 'B' = false := by decide
    rw [hmark, hradix, List.nil_append]
    unfold Literal.radixAndDigits
    split <;> simp_all [Radix.base]
  · rw [hmark]
    exact hread l.bareDigits

/-- The digits of a literal are read to its value, unless that is too large. -/
theorem readNat_bareDigits (limit : ℕ) (h : 0 < limit) :
    Text.readNat limit l.radix.base l.bareDigits =
      if l.value < limit then .value l.value else .tooLarge := by
  have hread := Radix.readDigits_eq l.bareDigits (fun c => l.isDigit_of_mem_bareDigits) h
  rw [value, ← Radix.extend_zero, ← hread]
  cases hbare : l.bareDigits with
  | nil => exact absurd hbare l.bareDigits_ne_nil
  | cons c digits =>
    have hdigit := l.isDigit_of_mem_bareDigits (c := c) (by simp [hbare])
    have hplus : c ≠ '+' := Radix.ne_of_isDigit hdigit (by decide)
    unfold Text.readNat
    split <;> simp_all

/-- **An integer literal is read as its value** up to the largest day count, and is an overflow
above it, also where it does not fit a word; it is never taken for something else. -/
theorem read_eq_value_or_overflow :
    Literal.read l.text = if l.value ≤ 65535 then .days l.value else .overflow := by
  have hread := l.readNat_bareDigits Literal.wordLimit (by decide)
  have hmax : 65535 < Literal.wordLimit := by decide
  unfold Literal.read
  rw [body_text, radixAndDigits_eq]
  simp only [hread]
  by_cases hword : l.value < Literal.wordLimit
  · rw [if_pos hword]
    rfl
  · have hlarge : ¬ l.value ≤ 65535 := by omega
    rw [if_neg hword, if_neg hlarge]

-- Low lines before, between and behind the digits, a mark and digits of both cases, and a suffix.
example :
    (⟨.hexadecimal, ['0', 'X'], "__1_00fF_".toList, "uLl".toList, by decide, by decide, by decide,
      by decide⟩ : IntegerLiteral).value = 65791 := by
  decide

end IntegerLiteral

end DeclaredDebt
