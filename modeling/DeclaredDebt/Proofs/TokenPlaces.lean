import DeclaredDebt.CSharp.Attribute
import Mathlib

/-!
# Where the tokens of a source stand

Nothing of a source is dropped when it is cut into lexemes, so its tokens stand in it one behind the
other, each at the byte it says and with gaps between them. Lines and columns are counted by
stepping over characters. Every step leads further on, so of two tokens the later one has the later
line and column.

## Main definitions

* `StandIn offset text tokens`: the tokens stand in a text one behind the other.
* `stepOver`: line and column behind a character.
-/

namespace DeclaredDebt.CSharp

/-- The tokens stand in a text one behind the other, each of them at its byte, if the text starts at
the given one. -/
inductive StandIn : ℕ → List Char → List Token → Prop where
  | nil (offset : ℕ) (text : List Char) : StandIn offset text []
  | cons {offset : ℕ} (gap after : List Char) {t : Token} {ts : List Token}
    (hstart : t.start = offset + byteLength gap) (hne : t.text ≠ [])
    (hafter : StandIn t.stop after ts) : StandIn offset (gap ++ (t.text ++ after)) (t :: ts)

/-- Line and column behind a character that stands at a line and column. -/
def stepOver (p : ℕ × ℕ) (c : Char) : ℕ × ℕ :=
  if c = '\n' then (p.1 + 1, 1) else (p.1, p.2 + c.utf8Size)

/-! ## Bytes -/

@[simp] theorem byteLength_nil : byteLength [] = 0 := rfl

@[simp] theorem byteLength_cons (c : Char) (text : List Char) :
    byteLength (c :: text) = c.utf8Size + byteLength text := rfl

@[simp] theorem byteLength_append (text rest : List Char) :
    byteLength (text ++ rest) = byteLength text + byteLength rest := by
  induction text with
  | nil => simp
  | cons c text ih => simp [ih, Nat.add_assoc]

/-! ## Lexemes -/

/-- There is no lexeme at the end of a text. -/
theorem next?_nil (modes : List Mode) : next? modes [] = none := by
  have hcode : ∀ modes, nextCode? [] modes = none := by
    intro modes
    simp [nextCode?, runLength]
  unfold next?
  split
  · next quoting rest =>
    cases quoting <;> simp [nextTemplate?, templateTextLength, regularTextLength,
      verbatimTextLength, rawTextLength]
  · simp [runLength, hcode]
  · simp [hcode]
  · exact hcode _

/-- What is cut off a text is the text, and every piece has a character. -/
theorem of_cut?_eq_some {fuel : ℕ} {modes : List Mode} {text : List Char} {lexemes : List Lexeme}
    (h : cut? fuel modes text = some lexemes) :
    lexemes.flatMap (·.text) = text ∧ ∀ l ∈ lexemes, l.text ≠ [] := by
  fun_induction cut? fuel modes text generalizing lexemes with
  | case1 fuel =>
    obtain rfl := Option.some.inj h
    simp
  | case2 modes text hend => cases h
  | case3 fuel modes text hend hnext => cases h
  | case4 fuel modes text hend kind modes' hnext => cases h
  | case5 fuel modes text hend kind length modes' hpos hnext ih =>
    obtain ⟨rest, hrest, rfl⟩ := Option.map_eq_some_iff.1 h
    obtain ⟨htexts, hne⟩ := ih hrest
    have htext : text ≠ [] := by
      rintro rfl
      rw [next?_nil] at hnext
      cases hnext
    refine ⟨?_, ?_⟩
    · rw [List.flatMap_cons, htexts, List.take_append_drop]
    · intro l hl
      rcases List.mem_cons.1 hl with rfl | hl
      · simpa [List.take_eq_nil_iff, htext] using hpos
      · exact hne l hl

/-! ## Tokens -/

namespace StandIn

/-- Text in front of what the tokens stand in is a gap. -/
theorem gap {offset : ℕ} (gap : List Char) {text : List Char} {ts : List Token}
    (h : StandIn (offset + byteLength gap) text ts) : StandIn offset (gap ++ text) ts := by
  cases h with
  | nil => exact .nil _ _
  | cons inner after hstart hne hafter =>
    rw [← List.append_assoc]
    refine .cons (gap ++ inner) after ?_ hne hafter
    rw [hstart, byteLength_append, Nat.add_assoc]

/-- Tokens that are left out become part of a gap. -/
theorem sublist {offset : ℕ} {text : List Char} {ts us : List Token} (h : StandIn offset text ts)
    (hsub : us.Sublist ts) : StandIn offset text us := by
  induction h generalizing us with
  | nil offset text =>
    rw [List.sublist_nil.1 hsub]
    exact .nil _ _
  | @cons offset gap after t ts hstart hne hafter ih =>
    cases hsub with
    | cons _ hsub =>
      have hstop : t.stop = offset + byteLength (gap ++ t.text) := by
        rw [Token.stop, hstart, byteLength_append, Nat.add_assoc]
      rw [← List.append_assoc]
      apply StandIn.gap
      rw [← hstop]
      exact ih hsub
    | cons_cons _ hsub => exact .cons gap after hstart hne (ih hsub)

theorem le_start {offset : ℕ} {text : List Char} {ts : List Token} (h : StandIn offset text ts) :
    ∀ t ∈ ts, offset ≤ t.start := by
  induction h with
  | nil => simp
  | cons gap after hstart hne hafter ih =>
    intro u hu
    rcases List.mem_cons.1 hu with rfl | hu
    · omega
    · have hle := ih u hu
      rw [Token.stop] at hle
      omega

end StandIn

/-- A lexeme either goes into the gap before the next token or is a token itself. -/
theorem tokensFrom_cons (offset : ℕ) (notes : List Note) (l : Lexeme) (rest : List Lexeme) :
    (∃ notes', tokensFrom offset notes (l :: rest) =
      tokensFrom (offset + byteLength l.text) notes' rest) ∨
    tokensFrom offset notes (l :: rest) =
      ⟨l.kind, l.text, offset, notes⟩ :: tokensFrom (offset + byteLength l.text) [] rest := by
  obtain ⟨kind, text⟩ := l
  cases kind
  case blank => exact .inl ⟨_, rfl⟩
  case comment => exact .inl ⟨_, rfl⟩
  case directive => exact .inl ⟨_, rfl⟩
  all_goals exact .inr rfl

theorem standIn_tokensFrom (offset : ℕ) (notes : List Note) {lexemes : List Lexeme}
    (h : ∀ l ∈ lexemes, l.text ≠ []) :
    StandIn offset (lexemes.flatMap (·.text)) (tokensFrom offset notes lexemes) := by
  induction lexemes generalizing offset notes with
  | nil => exact .nil _ _
  | cons l rest ih =>
    have hrest : ∀ l ∈ rest, l.text ≠ [] := fun l hl => h l (List.mem_cons_of_mem _ hl)
    rw [List.flatMap_cons]
    obtain ⟨notes', heq⟩ | heq := tokensFrom_cons offset notes l rest
    · rw [heq]
      exact (ih _ notes' hrest).gap
    · rw [heq]
      have htoken : (⟨l.kind, l.text, offset, notes⟩ : Token).text ≠ [] := h l List.mem_cons_self
      exact .cons [] _ rfl htoken (ih _ [] hrest)

/-- **The tokens of a source stand in it** one behind the other. -/
theorem standIn_tokens {source : List Char} {lexemes : List Lexeme}
    (h : lexemes? source = some lexemes) : StandIn 0 source (tokens lexemes) := by
  obtain ⟨htexts, hne⟩ := of_cut?_eq_some h
  rw [← htexts]
  exact standIn_tokensFrom 0 [] hne

/-! ## Lines and columns -/

/-- Both ways to step over a character leave out its bytes. -/
theorem positionFrom_cons (p : ℕ × ℕ) (c : Char) (rest : List Char) {bytes : ℕ} (h : bytes ≠ 0) :
    positionFrom p.1 p.2 (c :: rest) bytes =
      positionFrom (stepOver p c).1 (stepOver p c).2 rest (bytes - c.utf8Size) := by
  have hsize : '\n'.utf8Size = 1 := by decide
  rw [positionFrom, stepOver]
  · split
    · next hline => rw [hline, hsize]
    · rfl
  · exact h

/-- The place behind a text is reached by stepping over its characters. -/
theorem positionFrom_append (p : ℕ × ℕ) (text after : List Char) (bytes : ℕ) :
    positionFrom p.1 p.2 (text ++ after) (byteLength text + bytes) =
      positionFrom (text.foldl stepOver p).1 (text.foldl stepOver p).2 after bytes := by
  induction text generalizing p with
  | nil => simp
  | cons c text ih =>
    have hpos := c.utf8Size_pos
    have hbytes : byteLength (c :: text) + bytes ≠ 0 := by
      rw [byteLength_cons]
      omega
    have hrest : byteLength (c :: text) + bytes - c.utf8Size = byteLength text + bytes := by
      rw [byteLength_cons]
      omega
    rw [List.cons_append, positionFrom_cons p c _ hbytes, hrest, ih, List.foldl_cons]

/-- Every character leads further on. -/
theorem lt_stepOver (p : ℕ × ℕ) (c : Char) : toLex p < toLex (stepOver p c) := by
  have hpos := c.utf8Size_pos
  rw [Prod.Lex.toLex_lt_toLex, stepOver]
  split
  · left
    simp
  · right
    simp [hpos]

theorem lt_foldl_stepOver (p : ℕ × ℕ) {text : List Char} (h : text ≠ []) :
    toLex p < toLex (text.foldl stepOver p) := by
  induction text generalizing p with
  | nil => exact absurd rfl h
  | cons c text ih =>
    rw [List.foldl_cons]
    cases text with
    | nil => exact lt_stepOver p c
    | cons d text => exact (lt_stepOver p c).trans (ih (stepOver p c) (by simp))

theorem le_positionFrom (p : ℕ × ℕ) (text : List Char) (bytes : ℕ) :
    toLex p ≤ toLex (positionFrom p.1 p.2 text bytes) := by
  induction text generalizing p bytes with
  | nil => cases bytes <;> exact le_rfl
  | cons c rest ih =>
    by_cases hbytes : bytes = 0
    · rw [hbytes]
      exact le_rfl
    · rw [positionFrom_cons p c rest hbytes]
      exact (lt_stepOver p c).le.trans (ih _ _)

/-- Of tokens that stand in a text, the later one has the later line and column. -/
theorem StandIn.pairwise_positionFrom {offset : ℕ} {text : List Char} {ts : List Token}
    (h : StandIn offset text ts) (p : ℕ × ℕ) :
    ts.Pairwise fun t u => toLex (positionFrom p.1 p.2 text (t.start - offset)) <
      toLex (positionFrom p.1 p.2 text (u.start - offset)) := by
  induction h generalizing p with
  | nil => exact .nil
  | @cons offset gap after t ts hstart hne hafter ih =>
    set q := gap.foldl stepOver p
    set q' := t.text.foldl stepOver q
    -- what the tokens behind this one have for their places
    have hlater : ∀ u ∈ ts, positionFrom p.1 p.2 (gap ++ (t.text ++ after)) (u.start - offset) =
        positionFrom q'.1 q'.2 after (u.start - t.stop) := by
      intro u hu
      have hle := hafter.le_start u hu
      have hbytes : u.start - offset =
          byteLength gap + (byteLength t.text + (u.start - t.stop)) := by
        rw [Token.stop] at hle ⊢
        omega
      rw [hbytes, positionFrom_append, positionFrom_append]
    refine List.pairwise_cons.2 ⟨?_, ?_⟩
    · intro u hu
      have hhere : positionFrom p.1 p.2 (gap ++ (t.text ++ after)) (t.start - offset) = q := by
        have hbytes : t.start - offset = byteLength gap + 0 := by omega
        rw [hbytes, positionFrom_append, positionFrom]
      rw [hhere, hlater u hu]
      calc
        toLex q < toLex q' := lt_foldl_stepOver q hne
        _ ≤ _ := le_positionFrom q' after (u.start - t.stop)
    · refine (ih q').imp_of_mem ?_
      intro t' u ht' hu hlt
      rw [hlater t' ht', hlater u hu]
      exact hlt

/-- **Of the tokens of a source, the later one has the later line and column.** -/
theorem StandIn.pairwise_position {source : List Char} {ts : List Token}
    (h : StandIn 0 source ts) :
    ts.Pairwise fun t u => toLex (position source t.start) < toLex (position source u.start) :=
  h.pairwise_positionFrom (1, 1)

end DeclaredDebt.CSharp
