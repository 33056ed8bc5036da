import DeclaredDebt.Glob
import Mathlib

/-!
# What globs fit

A glob is matched by the ends of a text that its parts can leave over, one part after the other.
Every such end is a suffix of the text, so an end is known by its length, and leaving out ends of a
length seen before loses none. From that, matching splits at each part: a glob leaves an end over
iff its first part leaves some text over from which the other parts leave that end.

Paths are matched as bytes. A character is known from the first of its bytes on, and no other
character has the byte of a slash, so a text of characters at the start of a path, or a slash inside
it, is found among the bytes exactly where it stands among the characters.

## Main definitions

* `Plain`: a character that stands for itself wherever it stands in a glob.
-/

namespace DeclaredDebt.Glob

/-! ## Texts as bytes -/

/-- The bytes of a character tell where it ends and which one it is. -/
theorem utf8EncodeChar_append_inj {c d : Char} {x y : List UInt8}
    (h : String.utf8EncodeChar c ++ x = String.utf8EncodeChar d ++ y) : c = d ∧ x = y := by
  have hdecode := congrArg (fun bytes => bytes.toByteArray.utf8DecodeChar? 0) h
  simp only [List.toByteArray_append, ByteArray.utf8DecodeChar?_utf8EncodeChar_append,
    Option.some.injEq] at hdecode
  subst hdecode
  exact ⟨rfl, List.append_cancel_left h⟩

/-- The byte of a slash is a byte of no other character. -/
theorem eq_slash_of_mem_utf8EncodeChar {c : Char} (h : slash ∈ String.utf8EncodeChar c) :
    c = '/' := by
  obtain ⟨i, hi, hslash⟩ := List.mem_iff_getElem.1 h
  have hfirst : (String.utf8EncodeChar c)[i].IsUTF8FirstByte := by
    rw [hslash]
    decide
  rw [UInt8.isUTF8FirstByte_getElem_utf8EncodeChar] at hfirst
  subst hfirst
  obtain ⟨b, more, hbytes⟩ := List.exists_cons_of_ne_nil (String.utf8EncodeChar_ne_nil (c := c))
  have hb : b = slash := by simpa [hbytes] using hslash
  have heq : String.utf8EncodeChar c ++ [] = String.utf8EncodeChar '/' ++ more := by
    rw [hbytes, hb, List.append_nil]
    rfl
  exact (utf8EncodeChar_append_inj heq).1

@[simp] theorem bytesOf_nil : bytesOf [] = [] := rfl

@[simp] theorem bytesOf_cons (c : Char) (text : List Char) :
    bytesOf (c :: text) = String.utf8EncodeChar c ++ bytesOf text := rfl

@[simp] theorem bytesOf_append (text more : List Char) :
    bytesOf (text ++ more) = bytesOf text ++ bytesOf more := List.flatMap_append

theorem bytesOf_slash (text : List Char) : bytesOf ('/' :: text) = slash :: bytesOf text := rfl

/-- The bytes of a text at the start of others are those of a text at the start of another. -/
theorem exists_of_bytesOf_append_eq {word text : List Char} {x : List UInt8}
    (h : bytesOf word ++ x = bytesOf text) : ∃ rest, text = word ++ rest ∧ x = bytesOf rest := by
  induction word generalizing text with
  | nil => exact ⟨text, rfl, h⟩
  | cons c word ih =>
    cases text with
    | nil => simp [String.utf8EncodeChar_ne_nil] at h
    | cons d text =>
      rw [bytesOf_cons, bytesOf_cons, List.append_assoc] at h
      obtain ⟨rfl, hrest⟩ := utf8EncodeChar_append_inj h
      obtain ⟨rest, rfl, hx⟩ := ih hrest
      exact ⟨rest, rfl, hx⟩

theorem bytesOf_inj {word text : List Char} : bytesOf word = bytesOf text ↔ word = text := by
  constructor
  · intro h
    obtain ⟨rest, rfl, hrest⟩ := exists_of_bytesOf_append_eq ((List.append_nil _).trans h)
    cases rest with
    | nil => exact (List.append_nil word).symm
    | cons c rest => simp [String.utf8EncodeChar_ne_nil] at hrest
  · exact congrArg bytesOf

/-- A slash among the bytes of a text is a slash in the text. -/
theorem exists_of_bytesOf_eq_append_slash {text : List Char} {x y : List UInt8}
    (h : bytesOf text = x ++ slash :: y) :
    ∃ before after, text = before ++ '/' :: after ∧ y = bytesOf after := by
  induction text generalizing x with
  | nil => simp at h
  | cons c text ih =>
    rw [bytesOf_cons, List.append_eq_append_iff] at h
    obtain ⟨x', rfl, hrest⟩ | ⟨z, hchar, hrest⟩ := h
    · obtain ⟨before, after, rfl, hafter⟩ := ih hrest
      exact ⟨c :: before, after, rfl, hafter⟩
    · cases z with
      | nil =>
        obtain ⟨before, after, rfl, hafter⟩ := ih (x := []) hrest.symm
        exact ⟨c :: before, after, rfl, hafter⟩
      | cons b z =>
        -- The slash is one of the bytes of the first character, which is therefore a slash itself.
        obtain ⟨rfl, hy⟩ := List.cons.inj hrest
        have hc : c = '/' := eq_slash_of_mem_utf8EncodeChar (by simp [hchar])
        subst hc
        have hlength := congrArg List.length hchar
        have hz : z = [] := by
          rw [List.length_append, List.length_cons] at hlength
          have hone : (String.utf8EncodeChar '/').length = 1 := rfl
          exact List.length_eq_zero_iff.1 (by omega)
        subst hz
        exact ⟨[], text, rfl, by simpa using hy⟩

/-! ## Reading plain text -/

/-- A character that stands for itself wherever it stands in a glob. -/
def Plain (c : Char) : Prop := c ∉ ['*', '?', '[', ']', '\x7b', '\x7d', '\\']

instance : DecidablePred Plain := fun c => inferInstanceAs (Decidable (c ∉ _))

/-- Outside of choices a plain character is added as it is. -/
theorem readPieces_cons {p : Progress} (hp : p.choices = []) {c : Char} (hc : Plain c) (fuel : ℕ)
    (previous? : Option Char) (rest : List Char) :
    readPieces (fuel + 1) p previous? (c :: rest) =
      readPieces fuel (p.add (.literal c)) (some c) rest := by
  simp only [Plain, List.mem_cons, List.not_mem_nil, or_false, not_or] at hc
  by_cases hcomma : c = ','
  · subst hcomma
    rw [readPieces, Progress.comma, hp]
  · rw [readPieces] <;> simp_all

/-- A plain text is added as it is. -/
theorem readPieces_append {word : List Char} (hword : ∀ c ∈ word, Plain c) {p : Progress}
    (hp : p.choices = []) (fuel : ℕ) (previous? : Option Char) (rest : List Char) :
    readPieces (word.length + fuel) p previous? (word ++ rest) =
      readPieces fuel { p with pieces := (word.map .literal).reverse ++ p.pieces }
        (word.getLast?.or previous?) rest := by
  induction word generalizing p previous? with
  | nil => simp
  | cons c word ih =>
    rw [List.forall_mem_cons] at hword
    have hfuel : (c :: word).length + fuel = word.length + fuel + 1 := by
      rw [List.length_cons]
      omega
    have hadd : (p.add (.literal c)).choices = [] := hp
    rw [hfuel, List.cons_append, readPieces_cons hp hword.1, ih hword.2 hadd]
    simp [Progress.add, List.getLast?_cons]

/-- Two stars at the end of a glob take the place of the slash before them. -/
theorem doubleStar_end (pieces : List Piece) :
    doubleStar { pieces := .literal '/' :: pieces } (some '/') [] =
      ({ pieces := .anyEnd :: pieces }, []) := rfl

/-- Two stars and a slash at the start of a glob. -/
theorem doubleStar_start (rest : List Char) :
    doubleStar {} none ('/' :: rest) = ({ pieces := [.anyStart] }, rest) := rfl

/-- Plain text, a slash and two stars: the text, and all that is below it. -/
theorem parse_below {word : List Char} (hword : ∀ c ∈ word, Plain c) :
    parse (String.ofList (word ++ ['/', '*', '*'])) = .ok (word.map .literal ++ [.anyEnd]) := by
  have hslash : ∀ c ∈ word ++ ['/'], Plain c := by
    simp only [List.forall_mem_append, List.forall_mem_singleton]
    exact ⟨hword, by decide⟩
  have hread := readPieces_append hslash (p := {}) rfl 2 none ['*', '*']
  have hlength : (String.ofList (word ++ ['/', '*', '*'])).length = (word ++ ['/']).length + 2 := by
    rw [String.length_ofList, List.length_append, List.length_append]
    rfl
  have hsplit : word ++ ['/', '*', '*'] = word ++ ['/'] ++ ['*', '*'] := by simp
  rw [parse, hlength, String.toList_ofList, hsplit, hread]
  simp [readPieces, doubleStar_end]

/-- Two stars, a slash and plain text: the text at any depth. -/
theorem parse_anyDepth {word : List Char} (hword : ∀ c ∈ word, Plain c) :
    parse (String.ofList ('*' :: '*' :: '/' :: word)) = .ok (.anyStart :: word.map .literal) := by
  have hread := readPieces_append hword (p := { pieces := [.anyStart] }) rfl 2 (some '/') []
  have hlength : (String.ofList ('*' :: '*' :: '/' :: word)).length = word.length + 2 + 1 := by
    rw [String.length_ofList]
    rfl
  rw [List.append_nil] at hread
  rw [parse, hlength, String.toList_ofList, readPieces, doubleStar_start]
  simp [hread, readPieces]

/-! ## Ends of a text -/

theorem suffix_of_mem_suffixes {r text : List UInt8} (h : r ∈ suffixes text) : r <:+ text := by
  induction text with
  | nil => simp_all [suffixes]
  | cons b text ih =>
    rcases List.mem_cons.1 h with rfl | h
    · exact List.suffix_rfl
    · exact (ih h).trans (List.suffix_cons b text)

theorem nil_mem_suffixes (text : List UInt8) : [] ∈ suffixes text := by
  induction text with
  | nil => simp [suffixes]
  | cons b text ih => exact List.mem_cons_of_mem _ ih

/-- What stands behind a slash of a text. -/
theorem mem_behindSlashes {r text : List UInt8} :
    r ∈ behindSlashes text ↔ ∃ before, text = before ++ slash :: r := by
  induction text with
  | nil => simp [behindSlashes]
  | cons b text ih =>
    have hcons : (∃ before, b :: text = before ++ slash :: r) ↔
        (b = slash ∧ text = r) ∨ ∃ before, text = before ++ slash :: r := by
      constructor
      · rintro ⟨before, h⟩
        cases before with
        | nil => exact .inl (List.cons.inj h)
        | cons b' before => exact .inr ⟨before, (List.cons.inj h).2⟩
      · rintro (⟨rfl, rfl⟩ | ⟨before, rfl⟩)
        · exact ⟨[], rfl⟩
        · exact ⟨b :: before, rfl⟩
    rw [hcons, ← ih, behindSlashes]
    by_cases hb : b = slash <;> simp [hb, eq_comm]

theorem suffix_of_mem_behindSlashes {r text : List UInt8} (h : r ∈ behindSlashes text) :
    r <:+ text := by
  obtain ⟨before, rfl⟩ := mem_behindSlashes.1 h
  exact ⟨before ++ [slash], by simp⟩

theorem suffix_of_mem_withinName {r text : List UInt8} (h : r ∈ withinName text) : r <:+ text := by
  induction text with
  | nil => simp_all [withinName]
  | cons b text ih =>
    rw [withinName] at h
    by_cases hb : b = slash
    · rw [if_pos hb, List.mem_singleton] at h
      exact h ▸ List.suffix_rfl
    · rw [if_neg hb] at h
      rcases List.mem_cons.1 h with rfl | h
      · exact List.suffix_rfl
      · exact (ih h).trans (List.suffix_cons b text)

theorem behind?_eq_some_iff {bytes text r : List UInt8} :
    behind? bytes text = some r ↔ text = bytes ++ r := by
  fun_induction behind? bytes text with
  | case1 text => simp
  | case2 bytes c text ih => simp [ih]
  | case3 b bytes c text hne => simp [Ne.symm hne]
  | case4 => simp

/-- Two ends of a text with the same length are the same. -/
theorem eq_of_suffix_of_length_eq {r s text : List UInt8} (hr : r <:+ text) (hs : s <:+ text)
    (hlength : r.length = s.length) : r = s :=
  (List.suffix_of_suffix_length_le hr hs hlength.le).eq_of_length hlength

/-- Leaving out ends of a length that occurs again leaves out no end of a text. -/
theorem mem_distinct {text r : List UInt8} {rests : List (List UInt8)}
    (h : ∀ s ∈ rests, s <:+ text) : r ∈ distinct rests ↔ r ∈ rests := by
  induction rests generalizing r with
  | nil => rfl
  | cons s rests ih =>
    rw [List.forall_mem_cons] at h
    rw [distinct, List.foldr_cons, ← distinct, List.mem_cons]
    by_cases hseen : (distinct rests).any (·.length == s.length) = true
    · rw [if_pos hseen, ih h.2]
      -- An end of the same length was kept, and there is only one of that length.
      obtain ⟨s', hs', hlength⟩ := List.any_eq_true.1 hseen
      have hmem : s' ∈ rests := (ih h.2).1 hs'
      have heq : s' = s := eq_of_suffix_of_length_eq (h.2 s' hmem) h.1 (beq_iff_eq.1 hlength)
      constructor
      · exact .inr
      · rintro (rfl | hr)
        · exact heq ▸ hmem
        · exact hr
    · rw [if_neg hseen, List.mem_cons, ih h.2]

theorem mem_of_mem_distinct {r : List UInt8} {rests : List (List UInt8)} (h : r ∈ distinct rests) :
    r ∈ rests := by
  induction rests with
  | nil => exact h
  | cons s rests ih =>
    rw [distinct, List.foldr_cons, ← distinct] at h
    split at h
    · exact List.mem_cons_of_mem s (ih h)
    · rcases List.mem_cons.1 h with rfl | h
      · exact List.mem_cons_self
      · exact List.mem_cons_of_mem s (ih h)

/-! ## Matching part by part -/

/-- What is left over of a text by its first byte, and of the rest, is an end of the text. -/
theorem suffix_of_forall_cons {f : List UInt8 → List (List UInt8)} (hnil : f [] = [])
    (hcons : ∀ b rest, ∀ r ∈ f (b :: rest), r <:+ rest) {text r : List UInt8} (h : r ∈ f text) :
    r <:+ text := by
  cases text with
  | nil => simp [hnil] at h
  | cons b rest => exact (hcons b rest r h).trans (List.suffix_cons b rest)

mutual
/-- What a part leaves over is an end of the text. -/
theorem Piece.suffix_of_mem_rests {crossing : Bool} {p : Piece} {text r : List UInt8}
    (h : r ∈ p.rests crossing text) : r <:+ text := by
  cases p with
  | literal c =>
    rw [Piece.rests, Option.mem_toList, behind?_eq_some_iff] at h
    exact ⟨_, h.symm⟩
  | anyMany =>
    rw [Piece.rests] at h
    split at h
    · exact suffix_of_mem_suffixes h
    · exact suffix_of_mem_withinName h
  | anyStart =>
    rw [Piece.rests] at h
    rcases List.mem_cons.1 h with rfl | h
    · exact List.suffix_rfl
    · exact suffix_of_mem_behindSlashes h
  | anyOne =>
    refine suffix_of_forall_cons (by simp [Piece.rests]) ?_ h
    intro b rest r hr
    by_cases hb : b = slash ∧ !crossing <;> simp_all [Piece.rests]
  | set negated ranges =>
    refine suffix_of_forall_cons (by simp [Piece.rests]) ?_ h
    intro b rest r hr
    by_cases hb : inSet negated ranges b = true <;> simp_all [Piece.rests]
  | anyEnd =>
    refine suffix_of_forall_cons (by simp [Piece.rests]) ?_ h
    intro b rest r hr
    by_cases hb : b = slash
    · exact suffix_of_mem_suffixes (by simpa [Piece.rests, hb] using hr)
    · simp [Piece.rests, hb] at hr
  | anyMiddle =>
    refine suffix_of_forall_cons (by simp [Piece.rests]) ?_ h
    intro b rest r hr
    by_cases hb : b = slash
    · have hends : r = rest ∨ r ∈ behindSlashes rest := by simpa [Piece.rests, hb] using hr
      rcases hends with rfl | hends
      · exact List.suffix_rfl
      · exact suffix_of_mem_behindSlashes hends
    · simp [Piece.rests, hb] at hr
  | choice alternatives =>
    rw [Piece.rests] at h
    split at h
    · exact List.mem_singleton.1 h ▸ List.suffix_rfl
    · exact suffix_of_mem_choiceRests h

/-- What some parts leave over is an end of the text. -/
theorem suffix_of_mem_restsOf {crossing : Bool} {ps : List Piece} {text r : List UInt8}
    (h : r ∈ restsOf crossing ps text) : r <:+ text := by
  cases ps with
  | nil => exact List.mem_singleton.1 h ▸ List.suffix_rfl
  | cons p ps =>
    rw [restsOf] at h
    obtain ⟨s, hs, hr⟩ := List.mem_flatMap.1 (mem_of_mem_distinct h)
    exact (suffix_of_mem_restsOf hr).trans
      (Piece.suffix_of_mem_rests (mem_of_mem_distinct hs))

/-- What one of some alternatives leaves over is an end of the text. -/
theorem suffix_of_mem_choiceRests {crossing : Bool} {alternatives : List (List Piece)}
    {text r : List UInt8} (h : r ∈ choiceRests crossing alternatives text) : r <:+ text := by
  cases alternatives with
  | nil => simp [choiceRests] at h
  | cons ps alternatives =>
    rw [choiceRests, List.mem_append] at h
    rcases h with h | h
    · split at h
      · simp at h
      · exact suffix_of_mem_restsOf h
    · exact suffix_of_mem_choiceRests h
end

/-- **Matching splits at each part**: what a glob leaves over is what its other parts leave over of
what the first part does. -/
theorem mem_restsOf_cons {crossing : Bool} {p : Piece} {ps : List Piece} {text r : List UInt8} :
    r ∈ restsOf crossing (p :: ps) text ↔
      ∃ s ∈ p.rests crossing text, r ∈ restsOf crossing ps s := by
  have hfirst : ∀ s ∈ p.rests crossing text, s <:+ text := fun s => Piece.suffix_of_mem_rests
  have hall : ∀ r ∈ (distinct (p.rests crossing text)).flatMap (restsOf crossing ps),
      r <:+ text := by
    intro r hr
    obtain ⟨s, hs, hr⟩ := List.mem_flatMap.1 hr
    exact (suffix_of_mem_restsOf hr).trans (hfirst s ((mem_distinct hfirst).1 hs))
  rw [restsOf, mem_distinct hall, List.mem_flatMap]
  simp only [mem_distinct hfirst]

@[simp] theorem mem_restsOf_nil {crossing : Bool} {text r : List UInt8} :
    r ∈ restsOf crossing [] text ↔ r = text := by
  rw [restsOf, List.mem_singleton]

/-- A text of characters that stand for themselves has to be at the start. -/
theorem mem_restsOf_literals {crossing : Bool} (word : List Char) {ps : List Piece}
    {text r : List UInt8} :
    r ∈ restsOf crossing (word.map .literal ++ ps) text ↔
      ∃ s, text = bytesOf word ++ s ∧ r ∈ restsOf crossing ps s := by
  induction word generalizing text with
  | nil => simp
  | cons c word ih =>
    simp only [List.map_cons, List.cons_append, mem_restsOf_cons, Piece.rests, Option.mem_toList,
      behind?_eq_some_iff, ih, bytesOf_cons, List.append_assoc]
    constructor
    · rintro ⟨_, rfl, s, rfl, hr⟩
      exact ⟨s, rfl, hr⟩
    · rintro ⟨s, rfl, hr⟩
      exact ⟨_, rfl, s, rfl, hr⟩

theorem any_isEmpty_iff (rests : List (List UInt8)) :
    rests.any List.isEmpty = true ↔ [] ∈ rests := by
  simp [List.any_eq_true, List.isEmpty_iff]

/-- A slash with all that follows leaves nothing over iff there is a slash. -/
theorem nil_mem_restsOf_anyEnd {crossing : Bool} {text : List UInt8} :
    [] ∈ restsOf crossing [.anyEnd] text ↔ ∃ rest, text = slash :: rest := by
  simp only [mem_restsOf_cons, mem_restsOf_nil, eq_comm, exists_eq_right]
  cases text with
  | nil => simp [Piece.rests]
  | cons b text =>
    by_cases hb : b = slash <;> simp [Piece.rests, hb, nil_mem_suffixes]

/-- **A text with everything below it** fits the paths that go on with a slash behind the text. -/
theorem matchesBytes_below (crossing : Bool) (word text : List Char) :
    matchesBytes crossing (word.map .literal ++ [.anyEnd]) (bytesOf text) = true ↔
      ∃ rest, text = word ++ '/' :: rest := by
  have hmatches : matchesBytes crossing (word.map .literal ++ [.anyEnd]) (bytesOf text) =
      (restsOf crossing (word.map .literal ++ [.anyEnd]) (bytesOf text)).any List.isEmpty := by
    cases word <;> rfl
  rw [hmatches, any_isEmpty_iff, mem_restsOf_literals]
  simp only [nil_mem_restsOf_anyEnd]
  constructor
  · rintro ⟨_, htext, rest, rfl⟩
    have hfront : bytesOf (word ++ ['/']) ++ rest = bytesOf text := by
      rw [htext, bytesOf_append, List.append_assoc]
      rfl
    obtain ⟨rest', rfl, -⟩ := exists_of_bytesOf_append_eq hfront
    exact ⟨rest', by simp⟩
  · rintro ⟨rest, rfl⟩
    exact ⟨bytesOf ('/' :: rest), bytesOf_append _ _, bytesOf rest, bytesOf_slash rest⟩

/-- **A text at any depth** fits the paths that are the text or end with a slash and the text. -/
theorem matchesBytes_anyDepth (crossing : Bool) {word : List Char} (hword : word ≠ [])
    (text : List Char) :
    matchesBytes crossing (.anyStart :: word.map .literal) (bytesOf text) = true ↔
      text = word ∨ ∃ before, text = before ++ '/' :: word := by
  have hmatches : matchesBytes crossing (.anyStart :: word.map .literal) (bytesOf text) =
      (restsOf crossing (.anyStart :: (word.map .literal ++ [])) (bytesOf text)).any
        List.isEmpty := by
    obtain ⟨c, word, rfl⟩ := List.exists_cons_of_ne_nil hword
    rw [List.append_nil]
    rfl
  have hwhole : ∀ s, [] ∈ restsOf crossing (word.map .literal ++ []) s ↔ s = bytesOf word := by
    intro s
    rw [mem_restsOf_literals]
    simp [eq_comm]
  rw [hmatches, any_isEmpty_iff, mem_restsOf_cons]
  simp only [hwhole, exists_eq_right, Piece.rests, List.mem_cons, mem_behindSlashes, bytesOf_inj]
  constructor
  · rintro (rfl | ⟨before, htext⟩)
    · exact .inl rfl
    · obtain ⟨before', after, rfl, hafter⟩ := exists_of_bytesOf_eq_append_slash htext
      rw [bytesOf_inj.1 hafter]
      exact .inr ⟨before', rfl⟩
  · rintro (rfl | ⟨before, rfl⟩)
    · exact .inl rfl
    · exact .inr ⟨bytesOf before, bytesOf_append _ _⟩

end DeclaredDebt.Glob
