import DeclaredDebt.Json.Reader
import Mathlib

/-!
# Reading back what was laid out

A value laid out over several lines is read back as the same value. The reader goes through the text
once, so the statement about it is carried by what stands behind a value: a text that a number does
not run into. Strings come back because no character is half of a pair, and every escape is undone
by the one step of the reader that is for it.

## Main definitions

* `Json.Plain`: a value without numbers kept as they were written and without broken texts.
* `Json.Follows`: a text that can stand behind a value.
* `Json.ReadsBack fuel`: with so much fuel, what was laid out is read back.
-/

namespace DeclaredDebt.Json

mutual
/-- A value in which every number is a natural one and every text is whole. -/
def Plain : Json → Prop
  | .null => True
  | .bool _ => True
  | .nat _ => True
  | .decimal _ => False
  | .string _ => True
  | .broken => False
  | .array elements => PlainElements elements
  | .object members => PlainMembers members

/-- Elements that are all plain. -/
def PlainElements : List Json → Prop
  | [] => True
  | v :: rest => Plain v ∧ PlainElements rest

/-- Members with plain values. -/
def PlainMembers : List (String × Json) → Prop
  | [] => True
  | (_, v) :: rest => Plain v ∧ PlainMembers rest
end

@[simp] theorem plainElements_iff {elements : List Json} :
    PlainElements elements ↔ ∀ v ∈ elements, Plain v := by
  induction elements with
  | nil => simp [PlainElements]
  | cons v rest ih => simp [PlainElements, ih]

@[simp] theorem plainMembers_iff {members : List (String × Json)} :
    PlainMembers members ↔ ∀ m ∈ members, Plain m.2 := by
  induction members with
  | nil => simp [PlainMembers]
  | cons m rest ih => simp [PlainMembers, ih]

/-- A text that can stand behind a value: it does not go on with a number. -/
def Follows (rest : List Char) : Prop :=
  ∀ c ∈ rest.head?, c.isDigit = false ∧ c ≠ '.' ∧ c ≠ 'e' ∧ c ≠ 'E'

theorem follows_nil : Follows [] := by
  simp [Follows]

theorem follows_comma (rest : List Char) : Follows (',' :: rest) := by
  simp [Follows]

theorem follows_newline (level : ℕ) (rest : List Char) : Follows (newline level ++ rest) := by
  simp [Follows, newline]

/-! ## Gaps -/

@[simp] theorem skipGap_newline (level : ℕ) (rest : List Char) :
    skipGap (newline level ++ rest) = skipGap rest := by
  have hblanks : ∀ c ∈ newline level, isGap c = true := by
    intro c hc
    rcases List.mem_cons.1 hc with rfl | hc
    · rfl
    · rw [List.eq_of_mem_replicate hc]
      rfl
  exact List.dropWhile_append_of_pos hblanks

theorem skipGap_cons {c : Char} (hc : isGap c = false) (rest : List Char) :
    skipGap (c :: rest) = c :: rest := by
  simp [skipGap, hc]

theorem skipGap_blank (rest : List Char) : skipGap (' ' :: rest) = skipGap rest := rfl

/-! ## Strings -/

theorem digitValue?_digitChar {n : ℕ} (h : n < 16) :
    Text.digitValue? 16 (Nat.digitChar n) = some n := by
  interval_cases n <;> decide

/-- The unit of two zeros and two more digits. -/
theorem codeUnit?_low {n : ℕ} (h : n < 256) :
    codeUnit? '0' '0' (Nat.digitChar (n / 16)) (Nat.digitChar (n % 16)) = some n := by
  have hzero : Text.digitValue? 16 '0' = some 0 := by decide
  have hhigh := digitValue?_digitChar (n := n / 16) (by omega)
  have hlow := digitValue?_digitChar (n := n % 16) (by omega)
  simp only [codeUnit?, hzero, hhigh, hlow, Option.bind_eq_bind, Option.bind_some, Option.pure_def,
    Option.some.injEq]
  omega

/-- What the reader makes of a character put before a text. -/
def consUnit (c : Char) (p : List ℕ × List Char) : List ℕ × List Char := (c.toNat :: p.1, p.2)

theorem readUnits_shortEscape {e c : Char} (h : shortEscape? e = some c) (rest : List Char) :
    readUnits ('\\' :: e :: rest) = (readUnits rest).map (consUnit c) := by
  have hu : e ≠ 'u' := by
    rintro rfl
    simp [shortEscape?] at h
  rw [readUnits]
  · simp [h, consUnit, Option.map_eq_bind, Function.comp_def]
  · intro a b c d rest hu'
    exact absurd hu' hu

theorem readUnits_controlEscape {c : Char} (h : c.toNat < 32) (rest : List Char) :
    readUnits (controlEscape c ++ rest) = (readUnits rest).map (consUnit c) := by
  unfold controlEscape
  split
  · exact readUnits_shortEscape rfl rest
  · exact readUnits_shortEscape rfl rest
  · exact readUnits_shortEscape rfl rest
  · exact readUnits_shortEscape rfl rest
  · exact readUnits_shortEscape rfl rest
  · have hunit := codeUnit?_low (show c.toNat < 256 by omega)
    simp [readUnits, hunit, consUnit, Option.map_eq_bind, Function.comp_def]

/-- The escape of a character is read as that character. -/
theorem readUnits_escape (c : Char) (rest : List Char) :
    readUnits (escape c ++ rest) = (readUnits rest).map (consUnit c) := by
  unfold escape
  split_ifs with hquote hbackslash hcontrol
  · subst hquote
    exact readUnits_shortEscape rfl rest
  · subst hbackslash
    exact readUnits_shortEscape rfl rest
  · exact readUnits_controlEscape hcontrol rest
  · rw [List.singleton_append, readUnits.eq_def]
    split <;> simp_all [consUnit, Option.map_eq_bind, Function.comp_def]

/-- The characters of a string literal are read up to its closing quote. -/
theorem readUnits_flatMap_escape (text rest : List Char) :
    readUnits (text.flatMap escape ++ '"' :: rest) = some (text.map Char.toNat, rest) := by
  induction text with
  | nil => simp [readUnits]
  | cons c text ih =>
    rw [List.flatMap_cons, List.append_assoc, readUnits_escape, ih]
    rfl

/-- No character is half of a pair. -/
theorem not_isHalf (c : Char) : isHighHalf c.toNat = false ∧ isLowHalf c.toNat = false := by
  have hvalid : c.toNat < 0xD800 ∨ 0xDFFF < c.toNat ∧ c.toNat < 0x110000 := c.valid
  simp only [isHighHalf, isLowHalf, Bool.and_eq_false_iff, decide_eq_false_iff_not]
  omega

/-- Characters are units that stand for themselves. -/
theorem decodeUnits?_map_toNat (text : List Char) :
    decodeUnits? (text.map Char.toNat) = some text := by
  induction text with
  | nil => rfl
  | cons c text ih =>
    obtain ⟨hhigh, hlow⟩ := not_isHalf c
    cases text with
    | nil => simp [decodeUnits?, hhigh, hlow]
    | cons d text =>
      simp only [List.map_cons] at ih ⊢
      simp [decodeUnits?, hhigh, hlow, ih]

/-! ## Numbers -/

theorem toDigits_eq_cons (n : ℕ) :
    ∃ c digits, Nat.toDigits 10 n = c :: digits ∧ c.isDigit = true := by
  obtain ⟨c, digits, hdigits⟩ :=
    List.exists_cons_of_ne_nil (Nat.toDigits_ne_nil (b := 10) (n := n))
  refine ⟨c, digits, hdigits, ?_⟩
  exact Nat.isDigit_of_mem_toDigits (b := 10) (n := n) (by decide) (by decide) (by simp [hdigits])

/-- The digits of a number are a run that ends where the number ends. -/
theorem readRun_toDigits (n : ℕ) {rest : List Char} (h : Follows rest) :
    readRun (Nat.toDigits 10 n ++ rest) = some (Nat.toDigits 10 n, rest) := by
  have hdigits : ∀ c ∈ Nat.toDigits 10 n, c.isDigit = true :=
    fun c hc => Nat.isDigit_of_mem_toDigits (by decide) (by decide) hc
  have hstop : rest.takeWhile (·.isDigit) = [] ∧ rest.dropWhile (·.isDigit) = rest := by
    cases rest with
    | nil => simp
    | cons c rest => simp [(h c (by simp)).1]
  unfold readRun
  rw [List.span_eq_takeWhile_dropWhile, List.takeWhile_append_of_pos hdigits,
    List.dropWhile_append_of_pos hdigits, hstop.1, hstop.2, List.append_nil]
  split
  · next hnil => exact absurd (Prod.mk.inj hnil).1 Nat.toDigits_ne_nil
  · next heq => exact congrArg some heq.symm

theorem head?_toDigits {n : ℕ} (h : 0 < n) : (Nat.toDigits 10 n).head? ≠ some '0' := by
  induction n using Nat.strong_induction_on with
  | _ n ih =>
    rw [Nat.toDigits_eq_if (by decide)]
    split
    · simp [Nat.digitChar_eq_zero, h.ne']
    · have hrest := ih (n / 10) (by omega) (by omega)
      rwa [List.head?_append_of_ne_nil _ Nat.toDigits_ne_nil]

/-- A zero in front is the only digit. -/
theorem eq_nil_of_toDigits_eq {n : ℕ} {digits : List Char}
    (h : Nat.toDigits 10 n = '0' :: digits) : digits = [] := by
  rcases Nat.eq_zero_or_pos n with rfl | hpos
  · rw [Nat.toDigits_zero] at h
    exact (List.cons.inj h).2.symm
  · exact absurd (congrArg List.head? h) (head?_toDigits hpos)

theorem readFraction_of_follows {rest : List Char} (h : Follows rest) :
    readFraction rest = some ([], rest) := by
  cases rest with
  | nil => rfl
  | cons c rest =>
    have hpoint := (h c (by simp)).2.1
    unfold readFraction
    split <;> simp_all

theorem readExponent_of_follows {rest : List Char} (h : Follows rest) :
    readExponent rest = some ([], rest) := by
  cases rest with
  | nil => rfl
  | cons c rest =>
    obtain ⟨-, -, he, hE⟩ := h c (by simp)
    simp [readExponent, he, hE]

/-- A natural number is read from its digits. -/
theorem readNumber_toDigits (n : ℕ) {rest : List Char} (h : Follows rest) :
    readNumber (Nat.toDigits 10 n ++ rest) = some (.nat n, rest) := by
  have hrun := readRun_toDigits n h
  have hvalue : (Nat.toDigits 10 n).foldl (fun n c => 10 * n + (c.toNat - 48)) 0 = n := by
    have hof := Nat.ofDigitChars_ten_toDigits (n := n)
    rwa [Nat.ofDigitChars_eq_foldl] at hof
  obtain ⟨c, digits, hdigits, hc⟩ := toDigits_eq_cons n
  have hsign : c ≠ '-' := by
    rintro rfl
    exact absurd hc (by decide)
  have hzero : c = '0' → digits = [] := by
    rintro rfl
    exact eq_nil_of_toDigits_eq hdigits
  rw [hdigits] at hrun hvalue ⊢
  rw [List.cons_append] at hrun ⊢
  unfold readNumber
  simpa [hsign, hrun, readFraction_of_follows h, readExponent_of_follows h, hvalue] using hzero

/-! ## Values -/

/-- What a value starts with is neither a gap nor the end of a list. -/
theorem layout_eq_cons (level : ℕ) {v : Json} (hv : Plain v) :
    ∃ c text, layout level v = c :: text ∧ isGap c = false ∧ c ≠ ']' := by
  cases v with
  | null => exact ⟨'n', _, rfl, by decide, by decide⟩
  | bool b => cases b <;> exact ⟨_, _, rfl, by decide, by decide⟩
  | nat n =>
    obtain ⟨c, digits, hdigits, hc⟩ := toDigits_eq_cons n
    refine ⟨c, digits, hdigits, ?_, ?_⟩
    · by_contra hgap
      simp only [Bool.not_eq_false, isGap, Bool.or_eq_true, beq_iff_eq] at hgap
      rcases hgap with ((rfl | rfl) | rfl) | rfl <;> exact absurd hc (by decide)
    · rintro rfl
      exact absurd hc (by decide)
  | decimal text => exact hv.elim
  | string text => exact ⟨'"', _, rfl, by decide, by decide⟩
  | broken => exact hv.elim
  | array elements => cases elements <;> exact ⟨'[', _, rfl, by decide, by decide⟩
  | object members => cases members <;> exact ⟨'\x7b', _, rfl, by decide, by decide⟩

theorem skipGap_layout (level : ℕ) {v : Json} (hv : Plain v) (rest : List Char) :
    skipGap (layout level v ++ rest) = layout level v ++ rest := by
  obtain ⟨c, text, htext, hgap, -⟩ := layout_eq_cons level hv
  rw [htext, List.cons_append, skipGap_cons hgap]

theorem layout_append_ne (level : ℕ) {v : Json} (hv : Plain v) (rest text : List Char) :
    layout level v ++ rest ≠ ']' :: text := by
  obtain ⟨c, text', htext, -, hend⟩ := layout_eq_cons level hv
  rw [htext, List.cons_append]
  exact fun h => hend (List.cons.inj h).1

theorem length_layout_pos (level : ℕ) {v : Json} (hv : Plain v) : 0 < (layout level v).length := by
  obtain ⟨c, text, htext, -⟩ := layout_eq_cons level hv
  simp [htext]

theorem follows_layoutRest (level outer : ℕ) (elements : List Json) (rest : List Char) :
    Follows (layoutRest level elements ++ (newline outer ++ rest)) := by
  cases elements with
  | nil => exact follows_newline outer rest
  | cons v elements => exact follows_comma _

theorem follows_layoutMembers (level outer : ℕ) (members : List (String × Json))
    (rest : List Char) : Follows (layoutMembers level members ++ (newline outer ++ rest)) := by
  cases members with
  | nil => exact follows_newline outer rest
  | cons m members => exact follows_comma _

/-- A string literal is read as its text. -/
theorem readUnits_quote (text : String) (rest : List Char) :
    ∃ units, readUnits (text.toList.flatMap escape ++ '"' :: rest) = some (units, rest) ∧
      decodeUnits? units = some text.toList :=
  ⟨_, readUnits_flatMap_escape text.toList rest, decodeUnits?_map_toNat text.toList⟩

/-- Reading every part of a list that was written part by part. -/
theorem mapM_map_eq_some {α β γ : Type} {write : α → β} {read : β → Option γ} {f : α → γ}
    {l : List α} (h : ∀ x ∈ l, read (write x) = some (f x)) :
    (l.map write).mapM read = some (l.map f) := by
  induction l with
  | nil => rfl
  | cons x l ih =>
    have hrest := ih fun y hy => h y (by simp [hy])
    simp [List.mapM_cons, h x (by simp), hrest]

/-- An object is made of members that all have names. -/
theorem ofMembers_map (members : List (String × Json)) :
    ofMembers (members.map fun m => (some m.1, m.2)) = .object members := by
  have hall : (members.map fun m => (some m.1, m.2)).mapM
      (fun (m : Option String × Json) => m.1.map fun name => (name, m.2)) = some (members.map id) :=
    mapM_map_eq_some fun m _ => rfl
  simp [ofMembers, hall]

theorem readValue_of_isDigit (fuel : ℕ) {c : Char} (hc : c.isDigit = true) (text : List Char) :
    readValue (fuel + 1) (c :: text) = readNumber (c :: text) := by
  rw [readValue.eq_def]
  split
  · contradiction
  · split <;> simp_all

/-- An array that does not end at once is read element by element. -/
theorem readValue_array (fuel : ℕ) {text : List Char} (h : ∀ rest, skipGap text ≠ ']' :: rest) :
    readValue (fuel + 1) ('[' :: text) =
      (readElements fuel (skipGap text)).map fun p => (.array p.1, p.2) := by
  rw [readValue, Option.map_eq_bind]
  split
  · next rest hend => exact absurd hend (h rest)
  · rfl

/-- An object that starts with a name is read member by member. -/
theorem readValue_object (fuel : ℕ) {text rest : List Char} (h : skipGap text = '"' :: rest) :
    readValue (fuel + 1) ('\x7b' :: text) =
      (readMembers fuel ('"' :: rest)).map fun p => (ofMembers p.1, p.2) := by
  simp [readValue, h, Option.map_eq_bind]

section Behind

variable {fuel : ℕ} {text after rest : List Char} {v : Json}

/-- Behind a comma there are more elements. -/
theorem readElements_comma (h : readValue fuel text = some (v, after))
    (hafter : skipGap after = ',' :: rest) :
    readElements (fuel + 1) text =
      (readElements fuel (skipGap rest)).map fun p => (v :: p.1, p.2) := by
  simp [readElements, h, hafter, Option.map_eq_bind]

theorem readElements_end (h : readValue fuel text = some (v, after))
    (hafter : skipGap after = ']' :: rest) : readElements (fuel + 1) text = some ([v], rest) := by
  simp [readElements, h, hafter]

/-- Behind a comma there are more members. -/
theorem readMembers_comma (key : String) (h : readValue fuel (skipGap text) = some (v, after))
    (hafter : skipGap after = ',' :: rest) :
    readMembers (fuel + 1) (quote key ++ ':' :: text) =
      (readMembers fuel (skipGap rest)).map fun p => ((some key, v) :: p.1, p.2) := by
  obtain ⟨units, hunits, hkey⟩ := readUnits_quote key (':' :: text)
  have hcolon : skipGap (':' :: text) = ':' :: text := skipGap_cons (by decide) text
  simp [quote, readMembers, hunits, hkey, hcolon, h, hafter, Option.map_eq_bind]

theorem readMembers_end (key : String) (h : readValue fuel (skipGap text) = some (v, after))
    (hafter : skipGap after = '\x7d' :: rest) :
    readMembers (fuel + 1) (quote key ++ ':' :: text) = some ([(some key, v)], rest) := by
  obtain ⟨units, hunits, hkey⟩ := readUnits_quote key (':' :: text)
  have hcolon : skipGap (':' :: text) = ':' :: text := skipGap_cons (by decide) text
  simp [quote, readMembers, hunits, hkey, hcolon, h, hafter]

end Behind

/-- With so much fuel, what was laid out is read back: a value, the elements of an array up to its
end, and the members of an object up to its end. -/
structure ReadsBack (fuel : ℕ) : Prop where
  value : ∀ (v : Json) (level : ℕ) (rest : List Char), Plain v → Follows rest →
    (layout level v).length ≤ fuel → readValue fuel (layout level v ++ rest) = some (v, rest)
  elements : ∀ (v : Json) (more : List Json) (level outer : ℕ) (rest : List Char),
    Plain v → PlainElements more →
    (layout level v).length + (layoutRest level more).length < fuel →
    readElements fuel
      (layout level v ++ (layoutRest level more ++ (newline outer ++ ']' :: rest))) =
      some (v :: more, rest)
  members : ∀ (key : String) (v : Json) (more : List (String × Json)) (level outer : ℕ)
    (rest : List Char), Plain v → PlainMembers more →
    (layout level v).length + (layoutMembers level more).length < fuel →
    readMembers fuel (quote key ++ ([':', ' '] ++ (layout level v ++
      (layoutMembers level more ++ (newline outer ++ '\x7d' :: rest))))) =
      some (((key, v) :: more).map (fun m => (some m.1, m.2)), rest)

namespace ReadsBack

variable {fuel : ℕ}

theorem value_succ (h : ReadsBack fuel) (v : Json) (level : ℕ) (rest : List Char) (hv : Plain v)
    (hrest : Follows rest) (hfuel : (layout level v).length ≤ fuel + 1) :
    readValue (fuel + 1) (layout level v ++ rest) = some (v, rest) := by
  cases v with
  | null => simp [layout, readValue]
  | bool b => cases b <;> simp [layout, readValue]
  | nat n =>
    have hnumber := readNumber_toDigits n hrest
    obtain ⟨c, digits, hdigits, hc⟩ := toDigits_eq_cons n
    rw [layout, hdigits, List.cons_append, readValue_of_isDigit fuel hc, ← List.cons_append,
      ← hdigits, hnumber]
  | decimal text => exact hv.elim
  | string text =>
    obtain ⟨units, hunits, htext⟩ := readUnits_quote text rest
    simp [layout, quote, readValue, hunits, htext]
  | broken => exact hv.elim
  | array elements =>
    cases elements with
    | nil => simp [layout, readValue, skipGap, isGap]
    | cons v more =>
      obtain ⟨hv, hmore⟩ := hv
      have helements := h.elements v more (level + 1) level rest hv hmore (by
        simp only [layout, newline, List.length_append, List.length_cons] at hfuel
        omega)
      simp only [layout, List.cons_append, List.append_assoc, List.nil_append]
      rw [readValue_array, skipGap_newline, skipGap_layout _ hv, helements]
      · rfl
      · intro text
        rw [skipGap_newline, skipGap_layout _ hv]
        exact layout_append_ne _ hv _ text
  | object members =>
    cases members with
    | nil => simp [layout, readValue, skipGap, isGap]
    | cons m more =>
      obtain ⟨key, v⟩ := m
      obtain ⟨hv, hmore⟩ := hv
      have hmembers := h.members key v more (level + 1) level rest hv hmore (by
        simp only [layout, newline, List.length_append, List.length_cons] at hfuel
        omega)
      simp only [layout, List.cons_append, List.append_assoc, List.nil_append, quote] at hmembers ⊢
      rw [readValue_object fuel (by rw [skipGap_newline, skipGap_cons (by decide)]), hmembers]
      simp only [Option.map_some, ofMembers_map]

theorem elements_succ (h : ReadsBack fuel) (v : Json) (more : List Json) (level outer : ℕ)
    (rest : List Char) (hv : Plain v) (hmore : PlainElements more)
    (hfuel : (layout level v).length + (layoutRest level more).length < fuel + 1) :
    readElements (fuel + 1)
      (layout level v ++ (layoutRest level more ++ (newline outer ++ ']' :: rest))) =
      some (v :: more, rest) := by
  have hvalue := h.value v level (layoutRest level more ++ (newline outer ++ ']' :: rest)) hv
    (follows_layoutRest level outer more _) (by omega)
  cases more with
  | nil =>
    refine readElements_end hvalue ?_
    rw [layoutRest, List.nil_append, skipGap_newline, skipGap_cons (by decide)]
  | cons w more =>
    obtain ⟨hw, hmore⟩ := hmore
    have hrest := h.elements w more level outer rest hw hmore (by
      simp only [layoutRest, newline, List.length_append, List.length_cons] at hfuel
      omega)
    simp only [layoutRest, List.cons_append, List.append_assoc] at hvalue ⊢
    rw [readElements_comma hvalue (skipGap_cons (by decide) _), skipGap_newline,
      skipGap_layout level hw, hrest, Option.map_some]

theorem members_succ (h : ReadsBack fuel) (key : String) (v : Json)
    (more : List (String × Json)) (level outer : ℕ) (rest : List Char) (hv : Plain v)
    (hmore : PlainMembers more)
    (hfuel : (layout level v).length + (layoutMembers level more).length < fuel + 1) :
    readMembers (fuel + 1) (quote key ++ ([':', ' '] ++ (layout level v ++
      (layoutMembers level more ++ (newline outer ++ '\x7d' :: rest))))) =
      some (((key, v) :: more).map (fun m => (some m.1, m.2)), rest) := by
  have hvalue := h.value v level (layoutMembers level more ++ (newline outer ++ '\x7d' :: rest)) hv
    (follows_layoutMembers level outer more _) (by omega)
  rw [← skipGap_layout level hv, ← skipGap_blank] at hvalue
  rw [List.cons_append, List.singleton_append]
  cases more with
  | nil =>
    refine readMembers_end key hvalue ?_
    rw [layoutMembers, List.nil_append, skipGap_newline, skipGap_cons (by decide)]
  | cons m more =>
    obtain ⟨hm, hmore⟩ := hmore
    have hrest := h.members m.1 m.2 more level outer rest hm hmore (by
      simp only [layoutMembers, newline, List.length_append, List.length_cons] at hfuel
      omega)
    have hname : ∀ rest, skipGap (quote m.1 ++ rest) = quote m.1 ++ rest :=
      fun rest => skipGap_cons (by decide) _
    simp only [layoutMembers, List.cons_append, List.append_assoc] at hvalue hrest ⊢
    rw [readMembers_comma key hvalue (skipGap_cons (by decide) _), skipGap_newline, hname, hrest,
      Option.map_some, List.map_cons, List.map_cons, List.map_cons]

end ReadsBack

/-- **What was laid out is read back** with as much fuel as it has characters. -/
theorem readsBack (fuel : ℕ) : ReadsBack fuel := by
  induction fuel with
  | zero =>
    refine ⟨?_, ?_, ?_⟩
    · intro v level rest hv hrest hfuel
      exact absurd (length_layout_pos level hv) (by omega)
    · intro v more level outer rest hv hmore hfuel
      exact absurd hfuel (Nat.not_lt_zero _)
    · intro key v more level outer rest hv hmore hfuel
      exact absurd hfuel (Nat.not_lt_zero _)
  | succ fuel ih => exact ⟨ih.value_succ, ih.elements_succ, ih.members_succ⟩

/-- **A plain value laid out as a text is the only thing read from it.** -/
theorem read?_pretty {v : Json} (hv : Plain v) : read? v.pretty = some v := by
  have hgap := skipGap_layout 0 hv []
  have hvalue := (readsBack ((layout 0 v).length + 1)).value v 0 [] hv follows_nil (by omega)
  rw [List.append_nil] at hgap hvalue
  have htext : v.pretty.toList = layout 0 v := String.toList_ofList
  have hend : skipGap [] = [] := rfl
  simp [read?, readText?, htext, hgap, hvalue, hend]

end DeclaredDebt.Json
