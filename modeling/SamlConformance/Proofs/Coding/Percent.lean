import SamlConformance.Coding.Percent
import SamlConformance.Proofs.Text.Utf8

/-!
# Escaped Texts

An escaped text stands for the text that was escaped, whether it is read as a query
or as form data. Escaping leaves a small alphabet: unreserved characters, and the
percent sign in front of two digits. None of the characters that separate
parameters is in it, and neither is the plus sign, which is the only character
that the two ways of reading treat differently.

A percent sign is only ever resolved together with what follows it, so that reading
is followed from escape to escape and not byte by byte.

## Theorems

* `unescape_escape`: Resolving inverts escaping.
* `mem_escape`, `mem_encode`: What an escaped text is made of.
* `decode_encode`, `decodeForm_encode`: An escaped text stands for the text.
-/

namespace SamlConformance

namespace Percent

theorem digitValue?_digit : ∀ n < 16, digitValue? (digit n) = some n := by
  decide

theorem isUnreserved_digit : ∀ n < 16, isUnreserved (digit n) = true := by
  decide

/-- What is no percent sign stands for itself, whatever follows. -/
theorem unescape_cons (b : UInt8) (rest : List UInt8) (h : b ≠ sign) :
    unescape (b :: rest) = b :: unescape rest := by
  match rest with
  | [] => simp only [unescape]
  | [x] => simp only [unescape]
  | x :: y :: more =>
      rw [unescape, beq_false_of_ne h]

/-- The three bytes that stand for one are resolved to it. -/
theorem unescape_escaped (b : UInt8) (rest : List UInt8) :
    unescape (escaped b ++ rest) = b :: unescape rest := by
  have hb := b.toNat_lt
  have hvalue : b.toNat / 16 * 16 + b.toNat % 16 = b.toNat := by omega
  rw [escaped, List.cons_append, List.cons_append, List.cons_append, List.nil_append, unescape,
    beq_self_eq_true, digitValue?_digit _ (by omega), digitValue?_digit _ (by omega)]
  simp only [hvalue, UInt8.ofNat_toNat]

theorem ne_sign_of_isUnreserved (b : UInt8) (h : isUnreserved b = true) : b ≠ sign := by
  rintro rfl
  exact absurd h (by decide)

/-- Resolving gives back what was escaped. -/
theorem unescape_escape (bytes : List UInt8) : unescape (escape bytes) = bytes := by
  unfold escape
  -- One byte is one step of the induction, but one or three bytes to be resolved.
  induction bytes with
  | nil => simp only [List.flatMap_nil, unescape]
  | cons b bytes ih =>
      rw [List.flatMap_cons]
      by_cases hb : isUnreserved b = true
      · rw [if_pos hb, List.singleton_append,
          unescape_cons b _ (ne_sign_of_isUnreserved b hb), ih]
      · rw [if_neg hb, unescape_escaped, ih]

/-- Only unreserved bytes and percent signs are left. -/
theorem mem_escape (bytes : List UInt8) (b : UInt8) (h : b ∈ escape bytes) :
    isUnreserved b = true ∨ b = sign := by
  rcases List.mem_flatMap.mp h with ⟨x, -, hx⟩
  have hlt := x.toNat_lt
  by_cases hu : isUnreserved x = true
  · rw [if_pos hu, List.mem_singleton] at hx
    exact Or.inl (hx ▸ hu)
  · rw [if_neg hu] at hx
    simp only [escaped, List.mem_cons, List.not_mem_nil, or_false] at hx
    rcases hx with rfl | rfl | rfl
    · exact Or.inr rfl
    · exact Or.inl (isUnreserved_digit _ (by omega))
    · exact Or.inl (isUnreserved_digit _ (by omega))

theorem ascii_escape (bytes : List UInt8) (b : UInt8) (h : b ∈ escape bytes) :
    b.toNat < 128 := by
  rcases mem_escape bytes b h with hb | rfl
  · simp only [isUnreserved, Bool.or_eq_true, Bool.and_eq_true, decide_eq_true_eq,
      beq_iff_eq] at hb
    omega
  · decide

/-- The bytes of an escaped text are those it was built from. -/
theorem utf8_encode (s : String) : Utf8.encode (encode s) = escape (Utf8.encode s) :=
  Utf8.encode_ofList_ascii _ (ascii_escape _)

/-- Only unreserved characters and percent signs are left. -/
theorem mem_encode (s : String) (c : Char) (h : c ∈ (encode s).toList) :
    isUnreserved (UInt8.ofNat c.toNat) = true ∨ c = '%' := by
  rw [encode, String.toList_ofList] at h
  rcases List.mem_map.mp h with ⟨b, hb, rfl⟩
  rw [Utf8.toNat_ofNat_ascii _ (ascii_escape _ b hb), UInt8.ofNat_toNat]
  rcases mem_escape _ b hb with hu | rfl
  · exact Or.inl hu
  · exact Or.inr rfl

/-- An escaped text stands for the text that was escaped. -/
theorem decode_encode (s : String) : decode (encode s) = .ok s := by
  rw [decode, utf8_encode, unescape_escape, Utf8.decode_encode]

/-- It does so too where a plus sign stands for a space. -/
theorem decodeForm_encode (s : String) : decodeForm (encode s) = .ok s := by
  -- There is no plus sign to be replaced.
  have hplus : ∀ b ∈ escape (Utf8.encode s), (if b = 43 then 32 else b) = id b := by
    intro b hb
    refine if_neg ?_
    rintro rfl
    exact absurd (mem_escape _ _ hb) (by decide)
  rw [decodeForm, utf8_encode, List.map_congr_left hplus, List.map_id, unescape_escape,
    Utf8.decode_encode]

end Percent

end SamlConformance
