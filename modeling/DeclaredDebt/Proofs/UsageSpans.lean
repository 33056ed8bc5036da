import DeclaredDebt.Proofs.AttributePlaces

/-!
# The bytes that usages stand at

A usage says where it stands in three ways: by the bytes it covers, by line and column, and by the
name that is written there. All three are about the source as bytes. In UTF-8 a line feed is a byte
of its own that is part of no other character, so lines and columns that were counted over
characters can be counted over bytes as well. The tokens of an attribute are tokens of the source
without a gap in their order, and those of its name come first, so what is between the first byte
and the last is text of the source, and starts with the name.

## Main definitions

* `utf8`: a text as bytes.
* `LineStart bytes offset`: the last line of some bytes starts at the offset.
* `StandsAt bytes u`: a usage stands in some bytes where it says.
-/

namespace DeclaredDebt.CSharp

/-- A text as bytes. -/
def utf8 (text : List Char) : List UInt8 := (String.ofList text).toUTF8.data.toList

/-- The byte that ends a line. -/
def lineFeed : UInt8 := 10

/-- The last line of some bytes starts at an offset: behind a line feed or at the very start, and
with no line feed behind it. -/
structure LineStart (bytes : List UInt8) (offset : ℕ) : Prop where
  le_length : offset ≤ bytes.length
  behind : offset = 0 ∨ bytes[offset - 1]? = some lineFeed
  last : lineFeed ∉ bytes.drop offset

/-- A usage stands in some bytes where it says, and its name is written there. -/
structure StandsAt (bytes : List UInt8) (u : Usage) : Prop where
  start_lt_end : u.location.startByte < u.location.endByte
  end_le_length : u.location.endByte ≤ bytes.length
  line_eq : u.location.line = 1 + (bytes.take u.location.startByte).count lineFeed
  column_eq : ∃ offset, LineStart (bytes.take u.location.startByte) offset ∧
    u.location.column = 1 + (u.location.startByte - offset)
  name_ne : u.displayName ≠ ""
  name_isPrefix : utf8 u.displayName.toList <+: bytes.drop u.location.startByte

/-! ## Texts as bytes -/

theorem utf8_eq_flatMap (text : List Char) : utf8 text = text.flatMap String.utf8EncodeChar := by
  simp [utf8, List.utf8Encode]

@[simp] theorem utf8_nil : utf8 [] = [] := by simp [utf8_eq_flatMap]

@[simp] theorem utf8_cons (c : Char) (text : List Char) :
    utf8 (c :: text) = String.utf8EncodeChar c ++ utf8 text := by simp [utf8_eq_flatMap]

@[simp] theorem utf8_append (text more : List Char) :
    utf8 (text ++ more) = utf8 text ++ utf8 more := by simp [utf8_eq_flatMap]

@[simp] theorem length_utf8 (text : List Char) : (utf8 text).length = byteLength text := by
  induction text with
  | nil => rfl
  | cons c text ih => simp [ih, String.length_utf8EncodeChar]

theorem take_utf8 (before after : List Char) :
    (utf8 (before ++ after)).take (byteLength before) = utf8 before := by
  rw [utf8_append]
  exact List.take_left' (length_utf8 before)

theorem drop_utf8 (before after : List Char) :
    (utf8 (before ++ after)).drop (byteLength before) = utf8 after := by
  rw [utf8_append]
  exact List.drop_left' (length_utf8 before)

/-- A byte of a character is either all of it or none of the first 128. -/
theorem toNat_of_mem_utf8EncodeChar {c : Char} {b : UInt8} (h : b ∈ String.utf8EncodeChar c) :
    b.toNat = c.toNat ∨ 128 ≤ b.toNat := by
  have hhigh : ∀ n, 128 ≤ n → n < 256 → 128 ≤ (UInt8.ofNat n).toNat := by
    intro n hle hlt
    rwa [UInt8.toNat_ofNat', Nat.mod_eq_of_lt hlt]
  unfold String.utf8EncodeChar at h
  dsimp only at h
  split_ifs at h with hone htwo hthree
  · left
    rw [List.mem_singleton.1 h, UInt8.toNat_ofNat']
    exact Nat.mod_eq_of_lt (by omega)
  · right
    simp only [List.mem_cons, List.not_mem_nil, or_false] at h
    rcases h with rfl | rfl <;> exact hhigh _ (by omega) (by omega)
  · right
    simp only [List.mem_cons, List.not_mem_nil, or_false] at h
    rcases h with rfl | rfl | rfl <;> exact hhigh _ (by omega) (by omega)
  · right
    simp only [List.mem_cons, List.not_mem_nil, or_false] at h
    rcases h with rfl | rfl | rfl | rfl <;> exact hhigh _ (by omega) (by omega)

/-- A line feed is a byte of no other character. -/
theorem lineFeed_mem_utf8EncodeChar {c : Char} :
    lineFeed ∈ String.utf8EncodeChar c ↔ c = '\n' := by
  constructor
  · intro h
    have hval : c.toNat = 10 := by
      rcases toNat_of_mem_utf8EncodeChar h with heq | hle
      · exact heq.symm
      · exact absurd hle (by decide)
    exact Char.ext (UInt32.toNat_inj.1 hval)
  · rintro rfl
    decide

theorem count_lineFeed_utf8EncodeChar (c : Char) :
    (String.utf8EncodeChar c).count lineFeed = if c = '\n' then 1 else 0 := by
  split
  · next hc =>
    rw [hc]
    decide
  · next hc => exact List.count_eq_zero.2 (lineFeed_mem_utf8EncodeChar.not.2 hc)

/-! ## Lines and columns over bytes -/

/-- The line behind a text counts its line feeds. -/
theorem line_foldl_stepOver (p : ℕ × ℕ) (text : List Char) :
    (text.foldl stepOver p).1 = p.1 + (utf8 text).count lineFeed := by
  induction text generalizing p with
  | nil => rfl
  | cons c text ih =>
    rw [List.foldl_cons, ih, utf8_cons, List.count_append, count_lineFeed_utf8EncodeChar, stepOver]
    split <;> omega

theorem LineStart.append {bytes more : List UInt8} {offset : ℕ} (h : LineStart bytes offset)
    (hmore : lineFeed ∉ more) : LineStart (bytes ++ more) offset where
  le_length := by
    have hle := h.le_length
    rw [List.length_append]
    omega
  behind := by
    rcases h.behind with hzero | hbehind
    · exact .inl hzero
    · obtain ⟨hlt, -⟩ := List.getElem?_eq_some_iff.1 hbehind
      exact .inr (by rwa [List.getElem?_append_left hlt])
  last := by
    rw [List.drop_append_of_le_length h.le_length, List.mem_append, not_or]
    exact ⟨h.last, hmore⟩

theorem lineStart_append_lineFeed (bytes : List UInt8) :
    LineStart (bytes ++ [lineFeed]) (bytes ++ [lineFeed]).length where
  le_length := le_rfl
  behind := .inr (by simp)
  last := by simp

/-- The column behind a text counts the bytes of its last line. -/
theorem exists_lineStart (text : List Char) :
    ∃ offset, LineStart (utf8 text) offset ∧
      (text.foldl stepOver (1, 1)).2 = 1 + (byteLength text - offset) := by
  induction text using List.reverseRecOn with
  | nil => exact ⟨0, ⟨le_rfl, .inl rfl, by simp⟩, rfl⟩
  | append_singleton text c ih =>
    obtain ⟨offset, hstart, hcolumn⟩ := ih
    rw [List.foldl_append, List.foldl_cons, List.foldl_nil, utf8_append]
    by_cases hc : c = '\n'
    · subst hc
      have hbytes : utf8 ['\n'] = [lineFeed] := by rw [utf8_eq_flatMap]; decide
      have hsize : byteLength ['\n'] = 1 := by decide
      rw [hbytes]
      refine ⟨_, lineStart_append_lineFeed (utf8 text), ?_⟩
      rw [stepOver, if_pos rfl, List.length_append, length_utf8, byteLength_append, hsize,
        List.length_singleton, Nat.sub_self]
    · have hle := hstart.le_length
      rw [length_utf8] at hle
      refine ⟨offset, hstart.append ?_, ?_⟩
      · simpa using lineFeed_mem_utf8EncodeChar.not.2 hc
      · rw [stepOver, if_neg hc, hcolumn, byteLength_append, byteLength_cons, byteLength_nil]
        omega

/-- Line and column behind a text are those of its bytes. -/
theorem position_append (before after : List Char) :
    position (before ++ after) (byteLength before) = before.foldl stepOver (1, 1) := by
  have h := positionFrom_append (1, 1) before after 0
  rwa [Nat.add_zero, positionFrom] at h

/-! ## Text between two bytes -/

theorem byteLength_pos {text : List Char} (h : text ≠ []) : 0 < byteLength text := by
  obtain ⟨c, rest, rfl⟩ := List.exists_cons_of_ne_nil h
  have hpos := c.utf8Size_pos
  rw [byteLength_cons]
  omega

theorem slice_append (before text : List Char) (n : ℕ) :
    slice (before ++ text) (byteLength before) (byteLength before + n) = slice text 0 n := by
  induction before with
  | nil => simp
  | cons c before ih =>
    have hne : byteLength (c :: before) ≠ 0 := (byteLength_pos (List.cons_ne_nil c before)).ne'
    have hstart : byteLength (c :: before) - c.utf8Size = byteLength before := by
      rw [byteLength_cons]
      omega
    have hstop : byteLength (c :: before) + n - c.utf8Size = byteLength before + n := by
      rw [byteLength_cons]
      omega
    rw [List.cons_append, slice, if_neg hne, hstart, hstop, ih]

theorem slice_zero_append (text after : List Char) :
    slice (text ++ after) 0 (byteLength text) = text := by
  induction text with
  | nil => cases after <;> rfl
  | cons c text ih =>
    have hne : byteLength (c :: text) ≠ 0 := (byteLength_pos (List.cons_ne_nil c text)).ne'
    rw [List.cons_append, slice, if_pos rfl, if_neg hne, byteLength_cons, Nat.add_sub_cancel_left,
      ih]

theorem stop_spanOf_cons_cons (t u : Token) (us : List Token) :
    (spanOf (t :: u :: us)).2 = (spanOf (u :: us)).2 := by
  cases hlast : (u :: us).getLast? <;> simp [spanOf, hlast]

/-- What is between the first and the last byte of some tokens is text, and starts with that of the
first of them. -/
theorem StandIn.exists_covered {offset : ℕ} {text : List Char} {ts : List Token}
    (h : StandIn offset text ts) (hne : ts ≠ []) :
    ∃ before covered after, text = before ++ (covered ++ after) ∧ covered ≠ [] ∧
      (spanOf ts).1 = offset + byteLength before ∧
      (spanOf ts).2 = (spanOf ts).1 + byteLength covered := by
  induction h with
  | nil => exact absurd rfl hne
  | @cons offset gap after t ts hstart htext hafter ih =>
    have hfirst : (spanOf (t :: ts)).1 = t.start := start_spanOf rfl
    cases ts with
    | nil =>
      refine ⟨gap, t.text, after, rfl, htext, ?_, ?_⟩
      · rw [hfirst, hstart]
      · rw [hfirst]
        rfl
    | cons u us =>
      obtain ⟨between, covered, rest, rfl, -, hbetween, hcovered⟩ := ih (List.cons_ne_nil u us)
      refine ⟨gap, t.text ++ (between ++ covered), rest, by simp, by simp [htext], ?_, ?_⟩
      · rw [hfirst, hstart]
      · rw [stop_spanOf_cons_cons, hcovered, hbetween, hfirst, Token.stop, byteLength_append,
          byteLength_append]
        omega

theorem StandIn.pairwise_start {offset : ℕ} {text : List Char} {ts : List Token}
    (h : StandIn offset text ts) : ts.Pairwise fun t u => t.start < u.start := by
  induction h with
  | nil => exact .nil
  | @cons offset gap after t ts hstart hne hafter ih =>
    refine List.pairwise_cons.2 ⟨?_, ih⟩
    intro u hu
    have hle := hafter.le_start u hu
    have hpos := byteLength_pos hne
    rw [Token.stop] at hle
    omega

/-! ## The tokens of an attribute -/

mutual

/-- The tokens of an attribute in a tree are tokens of the tree, one behind the other. -/
theorem Tree.leaves_isInfix {tree : Tree} {children : List Tree}
    (h : children ∈ tree.attributeNodes) : forestLeaves children <:+: tree.leaves := by
  cases tree with
  | leaf t => cases h
  | node kind inner =>
    rw [Tree.leaves]
    by_cases hkind : kind = .attribute
    · subst hkind
      rcases List.mem_cons.1 h with rfl | h
      · exact List.infix_refl _
      · exact forestLeaves_isInfix h
    · rw [Tree.attributeNodes_of_ne hkind] at h
      exact forestLeaves_isInfix h
termination_by sizeOf tree

theorem forestLeaves_isInfix {trees : List Tree} {children : List Tree}
    (h : children ∈ forestAttributeNodes trees) :
    forestLeaves children <:+: forestLeaves trees := by
  cases trees with
  | nil => cases h
  | cons t rest =>
    rw [forestLeaves]
    rcases List.mem_append.1 h with h | h
    · exact (Tree.leaves_isInfix h).trans (List.prefix_append _ _).isInfix
    · exact (forestLeaves_isInfix h).trans (List.suffix_append _ _).isInfix
termination_by sizeOf trees

end

/-- The tokens of an attribute stand in the source. -/
theorem standIn_forestLeaves {source : List Char} {trees children : List Tree}
    (h : treesOf? source = some trees) (hchildren : children ∈ forestAttributeNodes trees) :
    StandIn 0 source (forestLeaves children) := by
  obtain ⟨lexemes, hlexemes, hparse⟩ := Option.bind_eq_some_iff.1 h
  have hinfix := forestLeaves_isInfix hchildren
  rw [forestLeaves_of_parse? hparse] at hinfix
  exact (standIn_tokens hlexemes).sublist hinfix.sublist

/-! ## Usages -/

/-- The name of a usage is what the source has between the bytes of the name. -/
theorem displayName_usageOf {file : Path} {source : List Char} {t : Token}
    {name others : List Tree} {before covered after : List Char}
    (hsource : source = before ++ (covered ++ after))
    (hstart : (spanOf (forestLeaves (.leaf t :: name))).1 = byteLength before)
    (hstop : (spanOf (forestLeaves (.leaf t :: name))).2 = byteLength before + byteLength covered) :
    (usageOf file source (.node .name (.leaf t :: name) :: others)).displayName =
      String.ofList covered := by
  simp only [usageOf, childrenOf?, if_true, Option.getD_some]
  rw [hstart, hstop, hsource, slice_append, slice_zero_append]

/-- **A usage stands where it says.** -/
theorem standsAt_usageOf {file : Path} {source : List Char} {children : List Tree}
    (hnamed : Named children) (hstand : StandIn 0 source (forestLeaves children)) :
    StandsAt (utf8 source) (usageOf file source children) := by
  obtain ⟨t, name, others, rfl⟩ := hnamed
  -- the tokens of the name are the first of the attribute
  have hleaves : forestLeaves (.node .name (.leaf t :: name) :: others) =
      forestLeaves (.leaf t :: name) ++ forestLeaves others := rfl
  have hname : StandIn 0 source (forestLeaves (.leaf t :: name)) :=
    hstand.sublist (hleaves ▸ List.sublist_append_left _ _)
  obtain ⟨before, covered, after, hsource, hcovered, hstart, hstop⟩ :=
    hstand.exists_covered (List.cons_ne_nil _ _)
  obtain ⟨before', name', after', hsource', hname', hstart', hstop'⟩ :=
    hname.exists_covered (List.cons_ne_nil _ _)
  rw [Nat.zero_add] at hstart hstart'
  have hsame : byteLength before = byteLength before' := by
    rw [← hstart, ← hstart', start_spanOf rfl, start_spanOf rfl]
  set u := usageOf file source (.node .name (.leaf t :: name) :: others) with hu
  have hstartByte : u.location.startByte = byteLength before' := hstart.trans hsame
  have hendByte : u.location.endByte = u.location.startByte + byteLength covered := hstop
  have hplace : (u.location.line, u.location.column) = before'.foldl stepOver (1, 1) := by
    rw [← position_append before' (name' ++ after'), ← hsource', ← hstartByte]
    rfl
  have hdisplay : u.displayName = String.ofList name' :=
    displayName_usageOf hsource' hstart' (hstart' ▸ hstop')
  refine ⟨?_, ?_, ?_, ?_, ?_, ?_⟩
  · have hpos := byteLength_pos hcovered
    omega
  · rw [hendByte, hstartByte, ← hsame, hsource, length_utf8, byteLength_append, byteLength_append]
    omega
  · rw [hstartByte, hsource', take_utf8, ← line_foldl_stepOver (1, 1), ← hplace]
  · obtain ⟨offset, hoffset, hcolumn⟩ := exists_lineStart before'
    refine ⟨offset, ?_, ?_⟩
    · rwa [hstartByte, hsource', take_utf8]
    · rw [hstartByte, ← hcolumn, ← hplace]
  · rw [hdisplay, Ne, ← String.toList_inj, String.toList_ofList]
    exact hname'
  · rw [hdisplay, String.toList_ofList, hstartByte, hsource', drop_utf8, utf8_append]
    exact List.prefix_append _ _

/-- The bytes at which usages start increase. -/
theorem pairwise_startByte_usages (file : Path) {source : List Char} {trees : List Tree}
    (htrees : treesOf? source = some trees) :
    ((forestAttributeNodes trees).map (usageOf file source)).Pairwise fun u v =>
      u.location.startByte < v.location.startByte := by
  refine pairwise_usages file htrees (fun ts hts => hts.pairwise_start) ?_
  intro children others t u ht hu hlt
  have hstart : (usageOf file source children).location.startByte = t.start := start_spanOf ht
  have hstart' : (usageOf file source others).location.startByte = u.start := start_spanOf hu
  rwa [hstart, hstart']

/-- **The usages of a source stand in its bytes where they say.** Each covers some bytes of the
source; its line counts the line feeds before the first of them, its column the bytes since the last
line feed, and its name is written there. Usages are listed by their first bytes, and so by line
and column. -/
theorem usages_stand_where_they_say (file : Path) (source : List Char) :
    (∀ u ∈ (parseSource file source).usages, StandsAt (utf8 source) u) ∧
    (parseSource file source).usages.Pairwise
      (fun u v => u.location.startByte < v.location.startByte) ∧
    (parseSource file source).usages.Pairwise (fun u v =>
      toLex (u.location.line, u.location.column) < toLex (v.location.line, v.location.column)) := by
  have hplaces := (pairwise_isBefore_usages file source .empty).imp fun h => (isBefore_iff _ _).1 h
  rw [parseSource_eq] at hplaces ⊢
  cases htrees : treesOf? source with
  | none => simp [Recovery.empty]
  | some trees =>
    rw [htrees] at hplaces
    refine ⟨?_, pairwise_startByte_usages file htrees, hplaces⟩
    intro u hu
    obtain ⟨children, hchildren, rfl⟩ := List.mem_map.1 hu
    obtain ⟨lexemes, -, hparse⟩ := Option.bind_eq_some_iff.1 htrees
    exact standsAt_usageOf (named_of_parse? hparse children hchildren)
      (standIn_forestLeaves htrees hchildren)

/-- A source with a byte order mark, letters of several bytes, and an attribute inside another. -/
def markedSource : List Char :=
  "\uFEFF//\u20AC\r\n[A./*\u00E9*/B([C]()=>1)]class D;".toList

set_option maxRecDepth 100000 in
theorem markedSource_places :
    (parseSource ⟨"a.cs"⟩ markedSource).usages.map (fun u => (u.displayName, u.location)) =
      [("A./*\u00E9*/B", ⟨⟨"a.cs"⟩, 2, 2, 11, 30⟩), ("C", ⟨⟨"a.cs"⟩, 2, 13, 22, 23⟩)] := by
  rw [parseSource_eq]
  decide +kernel

/-- Both usages of that source stand where they say. -/
theorem markedSource_stands_where_it_says :
    ∃ u v, (parseSource ⟨"a.cs"⟩ markedSource).usages = [u, v] ∧
      u.displayName = "A./*\u00E9*/B" ∧ u.location = ⟨⟨"a.cs"⟩, 2, 2, 11, 30⟩ ∧
      v.displayName = "C" ∧ v.location = ⟨⟨"a.cs"⟩, 2, 13, 22, 23⟩ ∧
      StandsAt (utf8 markedSource) u ∧ StandsAt (utf8 markedSource) v := by
  obtain ⟨hstands, -, -⟩ := usages_stand_where_they_say ⟨"a.cs"⟩ markedSource
  obtain ⟨u, us, husages, hu, hus⟩ := List.map_eq_cons_iff.1 markedSource_places
  obtain ⟨v, vs, rfl, hv, hvs⟩ := List.map_eq_cons_iff.1 hus
  rw [List.map_eq_nil_iff.1 hvs] at husages
  rw [husages] at hstands
  obtain ⟨hname, hlocation⟩ := Prod.mk.inj hu
  obtain ⟨hname', hlocation'⟩ := Prod.mk.inj hv
  exact ⟨u, v, husages, hname, hlocation, hname', hlocation', hstands u (by simp),
    hstands v (by simp)⟩

end DeclaredDebt.CSharp
