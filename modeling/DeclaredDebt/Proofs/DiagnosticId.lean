import DeclaredDebt.Diagnostic
import DeclaredDebt.Proofs.Registry

/-!
# What the identifier of a diagnostic tells apart

An identifier is computed from a text of four lines: rule, file, line and column. The name of a file
may hold line ends, digits and anything else, so the text cannot simply be cut at its line ends. But
no rule has a line end in its name and no number has one, so the rule can be cut off in front and
the numbers behind, and what is left between them is the file. Different rules or places thus never
share a text. The identifier is the first half of the digest of that text, with two hexadecimal
digits for each byte.

## Main definitions

* `Diagnostic.digestFor`: the digest that an identifier is taken from.
-/

namespace DeclaredDebt

/-! ## Texts cut at a separator -/

section Separator

variable {α : Type} {separator : α} {xs ys as bs : List α}

private theorem eq_nil_of_cons_eq_append {mid : List α} (hmid : separator ∉ mid)
    (h : separator :: as = mid ++ separator :: bs) : mid = [] := by
  cases mid with
  | nil => rfl
  | cons c mid =>
    obtain ⟨rfl, -⟩ := List.cons.inj h
    exact absurd List.mem_cons_self hmid

/-- A text can be cut at its first separator. -/
theorem append_separator_inj (hxs : separator ∉ xs) (hys : separator ∉ ys) :
    xs ++ separator :: as = ys ++ separator :: bs ↔ xs = ys ∧ as = bs := by
  constructor
  · intro h
    rcases List.append_eq_append_iff.1 h with ⟨mid, rfl, htail⟩ | ⟨mid, rfl, htail⟩
    · obtain rfl := eq_nil_of_cons_eq_append (fun hc => hys (List.mem_append_right _ hc)) htail
      exact ⟨(List.append_nil _).symm, List.tail_eq_of_cons_eq htail⟩
    · obtain rfl := eq_nil_of_cons_eq_append (fun hc => hxs (List.mem_append_right _ hc)) htail
      exact ⟨List.append_nil _, (List.tail_eq_of_cons_eq htail).symm⟩
  · rintro ⟨rfl, rfl⟩
    rfl

/-- A text can be cut at its last separator. -/
theorem separator_append_inj (has : separator ∉ as) (hbs : separator ∉ bs) :
    xs ++ separator :: as = ys ++ separator :: bs ↔ xs = ys ∧ as = bs := by
  have hreverse : ∀ us vs : List α,
      (us ++ separator :: vs).reverse = vs.reverse ++ separator :: us.reverse := by simp
  rw [← List.reverse_inj, hreverse, hreverse, append_separator_inj (by simpa) (by simpa),
    List.reverse_inj, List.reverse_inj, and_comm]

end Separator

/-- A number is written without line ends. -/
theorem newline_notMem_toString (n : ℕ) : '\n' ∉ (toString n).toList := by
  rw [Nat.toString_eq_repr, Nat.toList_repr]
  intro h
  have hdigit := Nat.isDigit_of_mem_toDigits (by decide) (by decide) h
  exact absurd hdigit (by decide)

theorem Bucket.newline_notMem_identifier {b : Bucket} (h : b ∈ Bucket.registry) :
    '\n' ∉ b.identifier.toList := by
  have hall : ∀ b ∈ Bucket.registry, '\n' ∉ b.identifier.toList := by decide
  exact hall b h

/-! ## Digests in hexadecimal -/

namespace Md5

theorem length_littleEndian (count n : ℕ) : (littleEndian count n).length = count := by
  induction count generalizing n with
  | zero => rfl
  | succ count ih => rw [littleEndian, List.length_cons, ih]

/-- A digest has 16 bytes, whatever the message. -/
theorem length_digest (message : List UInt8) : (digest message).length = 16 := by
  simp [digest, length_littleEndian]

theorem hexDigits_append (bytes more : List UInt8) :
    hexDigits (bytes ++ more) = hexDigits bytes ++ hexDigits more :=
  List.flatMap_append

theorem length_hexDigits (bytes : List UInt8) : (hexDigits bytes).length = 2 * bytes.length := by
  induction bytes with
  | nil => rfl
  | cons b bytes ih =>
    rw [List.length_cons, Nat.mul_add, ← ih]
    rfl

/-- The first digits are those of the first bytes. -/
theorem take_hexDigits (bytes : List UInt8) (n : ℕ) :
    (hexDigits bytes).take (2 * n) = hexDigits (bytes.take n) := by
  by_cases hn : n ≤ bytes.length
  · conv_lhs => rw [← List.take_append_drop n bytes, hexDigits_append]
    apply List.take_left'
    rw [length_hexDigits, List.length_take_of_le hn]
  · have hle : bytes.length ≤ n := by omega
    rw [List.take_of_length_le hle, List.take_of_length_le]
    rw [length_hexDigits]
    omega

/-- Bytes are written with the ten digits and the first six small letters. -/
theorem mem_of_mem_hexDigits {bytes : List UInt8} {c : Char} (h : c ∈ hexDigits bytes) :
    c ∈ "0123456789abcdef".toList := by
  have hdigit : ∀ n < 16, Nat.digitChar n ∈ "0123456789abcdef".toList := by decide
  obtain ⟨b, -, hc⟩ := List.mem_flatMap.1 h
  have hb : b.toNat < 256 := b.toNat_lt
  rcases List.mem_cons.1 hc with rfl | hc
  · exact hdigit _ (by omega)
  · rw [List.mem_singleton.1 hc]
    exact hdigit _ (by omega)

end Md5

/-! ## Identifiers -/

namespace Diagnostic

/-- The digest that the identifier for a rule at a place is taken from. -/
def digestFor (ruleId file : String) (line column : ℕ) : List UInt8 :=
  Md5.digest (idText ruleId file line column).toUTF8.toList

/-- The text of an identifier determines the rule and the place. -/
theorem idText_inj {ruleId ruleId' file file' : String} {line line' column column' : ℕ}
    (hrule : '\n' ∉ ruleId.toList) (hrule' : '\n' ∉ ruleId'.toList) :
    idText ruleId file line column = idText ruleId' file' line' column' ↔
      ruleId = ruleId' ∧ file = file' ∧ line = line' ∧ column = column' := by
  -- the rule in front, then the column behind, then the line behind what is left
  have hparts : ∀ (r f : String) (l c : ℕ), (idText r f l c).toList =
      r.toList ++ '\n' :: ((f.toList ++ '\n' :: (toString l).toList) ++
        '\n' :: (toString c).toList) := by
    intro r f l c
    simp [idText]
  have hnumber : ∀ m n : ℕ, (toString m).toList = (toString n).toList ↔ m = n := by
    intro m n
    rw [String.toList_inj]
    exact ⟨Bucket.toString_injective, congrArg toString⟩
  rw [← String.toList_inj, hparts, hparts, append_separator_inj hrule hrule',
    separator_append_inj (newline_notMem_toString _) (newline_notMem_toString _),
    separator_append_inj (newline_notMem_toString _) (newline_notMem_toString _),
    String.toList_inj, String.toList_inj, hnumber, hnumber, and_assoc]

/-- An identifier is the first half of its digest. -/
theorem toList_idFor (ruleId file : String) (line column : ℕ) :
    (idFor ruleId file line column).toList =
      Md5.hexDigits ((digestFor ruleId file line column).take 8) := by
  rw [idFor, String.toList_ofList, ← Md5.take_hexDigits]
  rfl

/-- **Different rules or places never share the text their identifiers are computed from**, whatever
the name of the file. The rules of the registry have no line ends in their names, which is all that
is asked of a rule. Every identifier is the first eight bytes of the digest of its text, written
with sixteen hexadecimal digits. -/
theorem id_computed_from_rule_and_place :
    (∀ (ruleId ruleId' file file' : String) (line line' column column' : ℕ),
      '\n' ∉ ruleId.toList → '\n' ∉ ruleId'.toList →
      (idText ruleId file line column = idText ruleId' file' line' column' ↔
        ruleId = ruleId' ∧ file = file' ∧ line = line' ∧ column = column')) ∧
    (∀ b ∈ Bucket.registry, '\n' ∉ b.identifier.toList) ∧
    ∀ (ruleId file : String) (line column : ℕ),
      (digestFor ruleId file line column).length = 16 ∧
      (Md5.hexDigits (digestFor ruleId file line column)).length = 32 ∧
      (idFor ruleId file line column).toList =
        Md5.hexDigits ((digestFor ruleId file line column).take 8) ∧
      (idFor ruleId file line column).length = 16 ∧
      ∀ c ∈ (idFor ruleId file line column).toList, c ∈ "0123456789abcdef".toList := by
  refine ⟨fun _ _ _ _ _ _ _ _ => idText_inj, fun b => Bucket.newline_notMem_identifier, ?_⟩
  intro ruleId file line column
  have hdigest : (digestFor ruleId file line column).length = 16 := Md5.length_digest _
  have hid := toList_idFor ruleId file line column
  refine ⟨hdigest, ?_, hid, ?_, ?_⟩
  · rw [Md5.length_hexDigits, hdigest]
  · rw [← String.length_toList, hid, Md5.length_hexDigits, List.length_take, hdigest]
    rfl
  · intro c hc
    rw [hid] at hc
    exact Md5.mem_of_mem_hexDigits hc

/-- A file whose name ends like a line and a column does not share the text of another place. -/
theorem idText_of_awkward_file :
    '\n' ∉ "ManualDebt1Day".toList ∧
    idText "ManualDebt1Day" "a\n1" 2 3 ≠ idText "ManualDebt1Day" "a" 1 23 ∧
    idText "ManualDebt1Day" "a\n1\n2" 3 4 ≠ idText "ManualDebt1Day" "a\n1" 2 34 := by
  obtain ⟨htexts, hregistered, -⟩ := id_computed_from_rule_and_place
  have hrule : '\n' ∉ "ManualDebt1Day".toList := hregistered ⟨1⟩ (by decide)
  refine ⟨hrule, ?_, ?_⟩
  · rw [Ne, htexts _ _ _ _ _ _ _ _ hrule hrule]
    decide
  · rw [Ne, htexts _ _ _ _ _ _ _ _ hrule hrule]
    decide

end Diagnostic

end DeclaredDebt
