import Mathlib.Data.List.Forall2
import SamlConformance.Proofs.Coding.Percent

/-!
# Plus Signs in Form Data

A value can be read as part of a query or as form data, and the two readings differ in plus
signs only. In form data a plus sign is a space before escapes are resolved. It cannot be
part of an escape, and neither can a space, so that both readings resolve the same escapes,
and what they give differs at the places of the plus signs alone.

Both bytes are in ASCII, where a byte is a character of its own. So the readings succeed
together. Where the value has no plus sign they give the same text, and where it has one
the first text has a plus sign and the second a space.

## Main definitions

* `Percent.spaced`: The byte that form data have for a byte.
* `Percent.Spaced`: Two bytes are the same, or a plus sign and a space.
* `Percent.Exchanged`: Two bytes are the same, or both in ASCII.

## Theorems

* `mem_unescape`: A byte that is part of no escape is left.
* `unescape_spaced`: The two readings differ in plus signs only.
* `exists_encode_of_exchanged`: Other characters in the place of some leave a text.
* `decodeForm_of_decode`: Where one reading succeeds, so does the other, and how they differ.
* `exists_error_decodeForm_iff`: Where one fails, so does the other.
-/

namespace SamlConformance

namespace Percent

/-- The byte that form data have for a byte: a space stands in the place of a plus sign. -/
def spaced (b : UInt8) : UInt8 :=
  if b = 43 then 32 else b

/-- The second byte is the first, or a space in the place of a plus sign. -/
def Spaced (b b' : UInt8) : Prop :=
  b' = b ∨ b = 43 ∧ b' = 32

theorem spaced_spaced (b : UInt8) : Spaced b (spaced b) := by
  unfold spaced
  by_cases h : b = 43
  · rw [if_pos h]
    exact Or.inr ⟨h, rfl⟩
  · rw [if_neg h]
    exact Or.inl rfl

/-- A plus sign does not begin an escape, and neither does a space. -/
theorem spaced_beq_sign (b : UInt8) : (spaced b == sign) = (b == sign) := by
  unfold spaced
  by_cases h : b = 43
  · rw [if_pos h, h]
    decide
  · rw [if_neg h]

/-- Neither is a digit. -/
theorem digitValue?_spaced (b : UInt8) : digitValue? (spaced b) = digitValue? b := by
  unfold spaced
  by_cases h : b = 43
  · rw [if_pos h, h]
    decide
  · rw [if_neg h]

/-- What is no percent sign stands for itself also in front of two digits or more. -/
theorem unescape_of_not_escape (a x y : UInt8) (more : List UInt8)
    (h : ∀ m n, (a == sign) = true → digitValue? x = some m → digitValue? y = some n → False) :
    unescape (a :: x :: y :: more) = a :: unescape (x :: y :: more) := by
  rw [unescape]
  split
  · rename_i m n ha hx hy
    exact absurd (h m n ha hx hy) not_false
  · rfl

/-- A byte that is neither a percent sign nor a digit is part of no escape, and is left
when escapes are resolved. -/
theorem mem_unescape (bytes : List UInt8) (b : UInt8) (hsign : b ≠ sign)
    (hdigit : digitValue? b = none) (h : b ∈ bytes) : b ∈ unescape bytes := by
  induction bytes using unescape.induct with
  | case1 a x y more m n hy hx ha ih =>
      -- The three bytes of an escape are none of them the byte.
      have hmore : b ∈ more := by
        simp only [List.mem_cons] at h
        rcases h with rfl | rfl | rfl | h
        · exact absurd (beq_iff_eq.mp ha) hsign
        · exact absurd (hdigit.symm.trans hx) (Option.some_ne_none m).symm
        · exact absurd (hdigit.symm.trans hy) (Option.some_ne_none n).symm
        · exact h
      simp only [unescape, ha, hx, hy]
      exact List.mem_cons_of_mem _ (ih hmore)
  | case2 a x y more hnone ih =>
      rw [unescape_of_not_escape a x y more hnone]
      rcases List.mem_cons.mp h with rfl | h
      · exact List.mem_cons_self
      · exact List.mem_cons_of_mem a (ih h)
  | case3 short hshort =>
      rw [unescape]
      · exact h
      · exact hshort

/-- The readings of a value as part of a query and as form data differ in plus signs
only. -/
theorem unescape_spaced (bytes : List UInt8) :
    List.Forall₂ Spaced (unescape bytes) (unescape (bytes.map spaced)) := by
  induction bytes using unescape.induct with
  | case1 a x y more m n hy hx ha ih =>
      -- An escape is the same one in form data.
      simp only [List.map_cons, unescape, spaced_beq_sign, digitValue?_spaced, ha, hx, hy]
      exact .cons (Or.inl rfl) ih
  | case2 a x y more hnone ih =>
      rw [unescape_of_not_escape a x y more hnone, List.map_cons, List.map_cons, List.map_cons,
        unescape_of_not_escape]
      · exact .cons (spaced_spaced a) ih
      · intro m n
        rw [spaced_beq_sign, digitValue?_spaced, digitValue?_spaced]
        exact hnone m n
  | case3 short hshort =>
      have hmap : unescape (short.map spaced) = short.map spaced := by
        rcases short with _ | ⟨a, _ | ⟨x, _ | ⟨y, more⟩⟩⟩
        · simp only [List.map_nil, unescape]
        · simp only [List.map_cons, List.map_nil, unescape]
        · simp only [List.map_cons, List.map_nil, unescape]
        · exact absurd rfl (hshort a x y more)
      have hself : unescape short = short := by
        rw [unescape]
        exact hshort
      rw [hmap, hself, List.forall₂_map_right_iff]
      exact List.forall₂_same.mpr fun b _ => spaced_spaced b

/-- The second byte is the first, or both are in ASCII. -/
def Exchanged (b b' : UInt8) : Prop :=
  b' = b ∨ b.toNat < 128 ∧ b'.toNat < 128

theorem exchanged_of_spaced (b b' : UInt8) (h : Spaced b b') :
    Exchanged b b' ∧ Exchanged b' b := by
  rcases h with rfl | ⟨rfl, rfl⟩
  · exact ⟨Or.inl rfl, Or.inl rfl⟩
  · exact ⟨Or.inr (by decide), Or.inr (by decide)⟩

/-- Outside of ASCII nothing is replaced. -/
theorem exists_of_exchanged_append (bytes rest bytes' : List UInt8)
    (hbytes : ∀ b ∈ bytes, 128 ≤ b.toNat)
    (h : List.Forall₂ Exchanged (bytes ++ rest) bytes') :
    ∃ rest', bytes' = bytes ++ rest' ∧ List.Forall₂ Exchanged rest rest' := by
  induction bytes generalizing bytes' with
  | nil => exact ⟨bytes', rfl, h⟩
  | cons b bytes ih =>
      rw [List.cons_append, List.forall₂_cons_left_iff] at h
      rcases h with ⟨b', more, hb, hmore, rfl⟩
      rcases ih more (fun c hc => hbytes c (List.mem_cons_of_mem b hc)) hmore
        with ⟨rest', rfl, hrest⟩
      rcases hb with rfl | ⟨hlow, -⟩
      · exact ⟨rest', rfl, hrest⟩
      · exact absurd (hbytes b List.mem_cons_self) (Nat.not_le_of_lt hlow)

/-- Bytes that differ from those of a text in ASCII only are those of a text. -/
theorem exists_encode_of_exchanged (cs : List Char) (bytes : List UInt8)
    (h : List.Forall₂ Exchanged (cs.flatMap String.utf8EncodeChar) bytes) :
    ∃ ds : List Char, bytes = ds.flatMap String.utf8EncodeChar := by
  induction cs generalizing bytes with
  | nil =>
      rw [List.flatMap_nil, List.forall₂_nil_left_iff] at h
      exact ⟨[], h⟩
  | cons c cs ih =>
      rw [List.flatMap_cons] at h
      by_cases hc : c.toNat < 128
      · -- The byte of such a character is left or replaced, and is a character either way.
        have hbyte : (UInt8.ofNat c.toNat).toNat < 128 := by
          rw [UInt8.toNat_ofNat']
          omega
        rw [Utf8.utf8EncodeChar_low c hc, List.singleton_append, List.forall₂_cons_left_iff] at h
        rcases h with ⟨b, rest, hb, hrest, rfl⟩
        rcases ih rest hrest with ⟨ds, rfl⟩
        have hlow : b.toNat < 128 := by
          rcases hb with rfl | ⟨-, hlow⟩
          · exact hbyte
          · exact hlow
        exact ⟨Char.ofNat b.toNat :: ds,
          by rw [List.flatMap_cons, Utf8.utf8EncodeChar_ascii b hlow, List.singleton_append]⟩
      · rcases exists_of_exchanged_append _ _ bytes
          (Utf8.high_utf8EncodeChar c (by omega)) h with ⟨rest, rfl, hrest⟩
        rcases ih rest hrest with ⟨ds, rfl⟩
        exact ⟨c :: ds, List.flatMap_cons.symm⟩

/-- Where a value can be read as part of a query, it can be read as form data. Without a
plus sign it is the same text. With one, the first text has a plus sign, and the second has
a space. -/
theorem decodeForm_of_decode (raw text : String) (h : decode raw = .ok text) :
    ('+' ∉ raw.toList ∧ decodeForm raw = .ok text) ∨
      ('+' ∈ text.toList ∧ ∃ text', decodeForm raw = .ok text' ∧ ' ' ∈ text'.toList) := by
  have htext : unescape (Utf8.encode raw) = Utf8.encode text := (Utf8.decode_eq_ok_iff _ text).mp h
  have hform : decodeForm raw = Utf8.decode (unescape ((Utf8.encode raw).map spaced)) := rfl
  by_cases hplus : (43 : UInt8) ∈ Utf8.encode raw
  · have hleft : (43 : UInt8) ∈ Utf8.encode text :=
      htext ▸ mem_unescape _ 43 (by decide) (by decide) hplus
    refine Or.inr ⟨Utf8.mem_toList_of_mem_encode text 43 (by decide) hleft, ?_⟩
    have hspaced := unescape_spaced (Utf8.encode raw)
    rw [htext, Utf8.encode_eq_flatMap] at hspaced
    rcases exists_encode_of_exchanged _ _
      (hspaced.imp fun b b' h => (exchanged_of_spaced b b' h).1) with ⟨ds, hds⟩
    have hspace : (32 : UInt8) ∈ unescape ((Utf8.encode raw).map spaced) :=
      mem_unescape _ 32 (by decide) (by decide) (List.mem_map.mpr ⟨43, hplus, rfl⟩)
    rw [hds, ← Utf8.encode_ofList] at hspace
    refine ⟨String.ofList ds, ?_, Utf8.mem_toList_of_mem_encode _ 32 (by decide) hspace⟩
    rw [hform, hds, ← Utf8.encode_ofList, Utf8.decode_encode]
  · have hsame : (Utf8.encode raw).map spaced = Utf8.encode raw := by
      refine (List.map_congr_left ?_).trans (List.map_id _)
      intro b hb
      refine if_neg ?_
      rintro rfl
      exact hplus hb
    refine Or.inl ⟨?_, by rw [hform, hsame, htext, Utf8.decode_encode]⟩
    intro hmem
    refine hplus ?_
    rw [Utf8.encode_eq_flatMap]
    exact List.mem_flatMap.mpr ⟨'+', hmem, List.mem_cons_self⟩

/-- The two readings fail together. -/
theorem exists_error_decodeForm_iff (raw : String) :
    (∃ f, decodeForm raw = .error f) ↔ ∃ f, decode raw = .error f := by
  have hform : decodeForm raw = Utf8.decode (unescape ((Utf8.encode raw).map spaced)) := rfl
  constructor
  · rintro ⟨f, hf⟩
    cases hraw : decode raw with
    | error f' => exact ⟨f', rfl⟩
    | ok text =>
        rcases decodeForm_of_decode raw text hraw with ⟨-, hsame⟩ | ⟨-, text', hother, -⟩
        · exact absurd (hf.symm.trans hsame) (by simp only [reduceCtorEq, not_false_eq_true])
        · exact absurd (hf.symm.trans hother) (by simp only [reduceCtorEq, not_false_eq_true])
  · rintro ⟨f, hf⟩
    cases hread : decodeForm raw with
    | error f' => exact ⟨f', rfl⟩
    | ok text =>
        -- With the spaces taken back the bytes would be those of a text as well.
        have hspaced := unescape_spaced (Utf8.encode raw)
        rw [(Utf8.decode_eq_ok_iff _ text).mp (hform.symm.trans hread), Utf8.encode_eq_flatMap text]
          at hspaced
        rcases exists_encode_of_exchanged _ _
          (hspaced.flip.imp fun b' b h => (exchanged_of_spaced b b' h).2) with ⟨ds, hds⟩
        have htext : decode raw = .ok (String.ofList ds) := by
          rw [decode, hds, ← Utf8.encode_ofList, Utf8.decode_encode]
        exact absurd (hf.symm.trans htext) (by simp only [reduceCtorEq, not_false_eq_true])

end Percent

end SamlConformance
