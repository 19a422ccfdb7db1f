import SamlConformance.Proofs.Coding.Base64
import SamlConformance.Proofs.Coding.Percent

/-!
# What Is Left of an Encoding Cut Short

A text can be cut short anywhere: between two bytes of a character, inside a group of
symbols, inside an escape. What is left may still be readable, and then the question is what
it is read as. For each of the encodings the answer is that it is the beginning of what the
whole is read as, and not all of it. A reader further inside is then given something that is
cut short itself, and need not know of the encodings around it.

Characters and groups of symbols are read one at a time, and from the front of an encoding it
is known which one comes first, whatever follows. With escapes it is different, since a
percent sign without two digits stands for itself: an escape that is cut off leaves a percent
sign behind.

## Main definitions

* `CutShort`: Something is missing at the end.

## Theorems

* `Utf8.cutShort_encode_iff`: Texts are cut short as their bytes are.
* `Base64.cutShort_of_encode`: Byte strings are cut short as their texts are.
* `Percent.decode_base64`: There is nothing to be resolved in symbols.
* `Percent.cutShort_unescape`, `Percent.cutShort_decode`: What escapes stand for is cut short,
  or a percent sign is left.
-/

namespace SamlConformance

/-- What is left of a list when something is cut off its end. -/
def CutShort {α : Type} (xs ys : List α) : Prop :=
  xs <+: ys ∧ xs ≠ ys

instance {α : Type} [DecidableEq α] (xs ys : List α) : Decidable (CutShort xs ys) :=
  inferInstanceAs (Decidable (xs <+: ys ∧ xs ≠ ys))

theorem cutShort_cons_iff {α : Type} (xs ys : List α) (y : α) :
    CutShort xs (y :: ys) ↔ xs = [] ∨ ∃ cut, xs = y :: cut ∧ CutShort cut ys := by
  unfold CutShort
  rw [List.prefix_cons_iff]
  constructor
  · rintro ⟨rfl | ⟨cut, rfl, hcut⟩, hne⟩
    · exact Or.inl rfl
    · exact Or.inr ⟨cut, rfl, hcut, fun heq => hne (congrArg (y :: ·) heq)⟩
  · rintro (rfl | ⟨cut, rfl, hcut, hne⟩)
    · exact ⟨Or.inl rfl, (List.cons_ne_nil y ys).symm⟩
    · exact ⟨Or.inr ⟨cut, rfl, hcut⟩, fun heq => hne (List.cons.inj heq).2⟩

theorem CutShort.cons {α : Type} {xs ys : List α} (h : CutShort xs ys) (y : α) :
    CutShort (y :: xs) (y :: ys) :=
  (cutShort_cons_iff (y :: xs) ys y).mpr (Or.inr ⟨xs, rfl, h⟩)

theorem CutShort.length_lt {α : Type} {xs ys : List α} (h : CutShort xs ys) :
    xs.length < ys.length :=
  Nat.lt_of_le_of_ne h.1.length_le fun heq => h.2 (h.1.eq_of_length heq)

namespace Utf8

/-- The bytes of a character tell which one it is, whatever follows them. -/
theorem eq_of_utf8EncodeChar_append (c d : Char) (xs ys : List UInt8)
    (h : String.utf8EncodeChar c ++ xs = String.utf8EncodeChar d ++ ys) : c = d := by
  have hread : ∀ (c : Char) (xs : List UInt8),
      (String.utf8EncodeChar c ++ xs).toByteArray.utf8DecodeChar? 0 = some c := by
    intro c xs
    rw [List.toByteArray_append]
    exact ByteArray.utf8DecodeChar?_utf8EncodeChar_append
  have hc := hread c xs
  rw [h, hread d ys] at hc
  exact (Option.some.inj hc).symm

theorem prefix_of_flatMap_utf8EncodeChar (cs ds : List Char)
    (h : cs.flatMap String.utf8EncodeChar <+: ds.flatMap String.utf8EncodeChar) : cs <+: ds := by
  induction cs generalizing ds with
  | nil => exact List.nil_prefix
  | cons c cs ih =>
      obtain ⟨rest, hrest⟩ := h
      rw [List.flatMap_cons, List.append_assoc] at hrest
      cases ds with
      | nil => exact absurd (List.append_eq_nil_iff.mp hrest).1 String.utf8EncodeChar_ne_nil
      | cons d ds =>
          rw [List.flatMap_cons] at hrest
          obtain rfl := eq_of_utf8EncodeChar_append c d _ _ hrest
          exact List.cons_prefix_cons.mpr ⟨rfl, ih ds ⟨rest, List.append_cancel_left hrest⟩⟩

/-- Whether texts or their bytes are cut short makes no difference, as long as the bytes that
are left are those of a text. -/
theorem cutShort_encode_iff (s t : String) :
    CutShort (encode s) (encode t) ↔ CutShort s.toList t.toList := by
  have hne : encode s ≠ encode t ↔ s.toList ≠ t.toList :=
    not_congr ⟨fun h => congrArg String.toList (encode_injective s t h),
      fun h => congrArg encode (String.toList_inj.mp h)⟩
  rw [CutShort, CutShort, hne, encode_eq_flatMap, encode_eq_flatMap]
  refine and_congr_left' ⟨prefix_of_flatMap_utf8EncodeChar _ _, ?_⟩
  rintro ⟨rest, hrest⟩
  exact ⟨rest.flatMap String.utf8EncodeChar, by rw [← hrest, List.flatMap_append]⟩

end Utf8

namespace Base64

theorem encodeBytes_injective (bytes others : List UInt8)
    (h : encodeBytes bytes = encodeBytes others) : bytes = others := by
  have hbytes := (decodeBytes_eq_ok_iff _ bytes).mpr rfl
  rw [h, (decodeBytes_eq_ok_iff _ others).mpr rfl] at hbytes
  exact (Except.ok.inj hbytes).symm

/-- The first group and the others. -/
theorem encodeBytes_split (bytes : List UInt8) :
    encodeBytes bytes = encodeBytes (bytes.take 3) ++ encodeBytes (bytes.drop 3) := by
  match bytes with
  | [] => rfl
  | [a] => rfl
  | [a, b] => rfl
  | a :: b :: c :: rest => exact encodeBytes_append [a, b, c] rest rfl

theorem length_encodeBytes_take (bytes : List UInt8) (h : bytes ≠ []) :
    (encodeBytes (bytes.take 3)).length = 4 := by
  have hpos := List.length_pos_of_ne_nil h
  rw [length_encodeBytes, List.length_take]
  omega

/-- Group by group, the symbols of fewer bytes begin those of more. -/
theorem prefix_of_encodeBytes (bytes others : List UInt8)
    (h : encodeBytes bytes <+: encodeBytes others) : bytes <+: others := by
  induction hlength : bytes.length using Nat.strongRecOn generalizing bytes others with
  | ind n ih =>
      by_cases hbytes : bytes = []
      · rw [hbytes]
        exact List.nil_prefix
      have hothers : others ≠ [] := by
        rintro rfl
        have hle := h.length_le
        have hpos := List.length_pos_of_ne_nil hbytes
        rw [length_encodeBytes, length_encodeBytes, List.length_nil] at hle
        omega
      obtain ⟨rest, hrest⟩ := h
      rw [encodeBytes_split bytes, encodeBytes_split others, List.append_assoc] at hrest
      obtain ⟨hfirst, hdrop⟩ := List.append_inj hrest
        (by rw [length_encodeBytes_take bytes hbytes, length_encodeBytes_take others hothers])
      have hpos := List.length_pos_of_ne_nil hbytes
      have hbehind := ih (bytes.drop 3).length (by rw [List.length_drop]; omega) (bytes.drop 3)
        (others.drop 3) ⟨rest, hdrop⟩ rfl
      rw [← List.take_append_drop 3 bytes, ← List.take_append_drop 3 others,
        encodeBytes_injective _ _ hfirst]
      exact (List.prefix_append_right_inj _).mpr hbehind

/-- If the symbols of bytes are cut short and are still the symbols of bytes, these are cut
short too. -/
theorem cutShort_of_encodeBytes (bytes others : List UInt8)
    (h : CutShort (encodeBytes bytes) (encodeBytes others)) : CutShort bytes others :=
  ⟨prefix_of_encodeBytes bytes others h.1, fun heq => h.2 (congrArg encodeBytes heq)⟩

theorem cutShort_of_encode (bytes others : List UInt8)
    (h : CutShort (encode bytes).toList (encode others).toList) : CutShort bytes others := by
  rw [← Utf8.cutShort_encode_iff, utf8_encode, utf8_encode] at h
  exact cutShort_of_encodeBytes bytes others h

/-- No symbol is a percent sign. -/
theorem sign_not_mem_encodeBytes (bytes : List UInt8) : Percent.sign ∉ encodeBytes bytes := by
  have hsymbol : ∀ v < 64, symbol v ≠ Percent.sign := by decide
  intro hmem
  rcases mem_encodeBytes bytes _ hmem with hpad | ⟨v, hv, hsign⟩
  · exact absurd hpad (by decide)
  · exact hsymbol v hv hsign.symm

end Base64

namespace Percent

/-- Without percent signs there is nothing to be resolved. -/
theorem unescape_of_not_mem (bytes : List UInt8) (h : sign ∉ bytes) : unescape bytes = bytes := by
  induction bytes with
  | nil => simp only [unescape]
  | cons b bytes ih =>
      rw [unescape_cons b bytes fun heq => h (heq ▸ List.mem_cons_self),
        ih fun hmem => h (List.mem_cons_of_mem b hmem)]

/-- Symbols stand for themselves. -/
theorem decode_base64 (bytes : List UInt8) :
    decode (Base64.encode bytes) = .ok (Base64.encode bytes) := by
  rw [decode, Base64.utf8_encode, unescape_of_not_mem _ (Base64.sign_not_mem_encodeBytes bytes),
    ← Base64.utf8_encode, Utf8.decode_encode]

/-- Too few bytes for an escape stand for themselves. -/
theorem unescape_short (short : List UInt8) (h : short.length < 3) : unescape short = short := by
  rw [unescape]
  rintro a x y more rfl
  rw [List.length_cons, List.length_cons, List.length_cons] at h
  omega

/-- Of escapes that are cut short a percent sign is left, or what they stand for is cut short as
well. -/
theorem cutShort_unescape (cut whole : List UInt8) (hsign : sign ∉ unescape whole)
    (h : CutShort cut whole) :
    sign ∈ unescape cut ∨ CutShort (unescape cut) (unescape whole) := by
  have hnothing (b : UInt8) (rest : List UInt8) : CutShort (unescape []) (b :: rest) := by
    rw [unescape_short [] (by decide)]
    exact (cutShort_cons_iff [] rest b).mpr (Or.inl rfl)
  -- Escape by escape: the cut is in front of the first one, inside it or behind it.
  induction whole using unescape.induct generalizing cut with
  | case1 a x y more hi lo hy hx ha ih =>
      have hescape (rest : List UInt8) :
          unescape (a :: x :: y :: rest) = UInt8.ofNat (hi * 16 + lo) :: unescape rest := by
        rw [unescape, ha, hx, hy]
      obtain rfl : a = sign := beq_iff_eq.mp ha
      rw [hescape more] at hsign ⊢
      rcases (cutShort_cons_iff _ _ _).mp h with rfl | ⟨cut, rfl, hx'⟩
      · exact Or.inr (hnothing _ _)
      rcases (cutShort_cons_iff _ _ _).mp hx' with rfl | ⟨cut, rfl, hy'⟩
      · exact Or.inl (by rw [unescape_short [sign] (by decide)]; exact List.mem_cons_self)
      rcases (cutShort_cons_iff _ _ _).mp hy' with rfl | ⟨cut, rfl, hmore⟩
      · refine Or.inl ?_
        rw [unescape_short [sign, x] (by rw [List.length_cons, List.length_singleton]; omega)]
        exact List.mem_cons_self
      · rw [hescape cut]
        rcases ih cut (fun hmem => hsign (List.mem_cons_of_mem _ hmem)) hmore with hleft | hcut
        · exact Or.inl (List.mem_cons_of_mem _ hleft)
        · exact Or.inr (hcut.cons _)
  | case2 a x y more hnot ih =>
      have hself : unescape (a :: x :: y :: more) = a :: unescape (x :: y :: more) := by
        rw [unescape]
        split
        · rename_i hi lo ha hx hy
          exact absurd hy (hnot hi lo ha hx)
        · rfl
      rw [hself] at hsign ⊢
      have ha : a ≠ sign := fun heq => hsign (heq ▸ List.mem_cons_self)
      rcases (cutShort_cons_iff _ _ _).mp h with rfl | ⟨cut, rfl, hmore⟩
      · exact Or.inr (hnothing _ _)
      · rw [unescape_cons a cut ha]
        rcases ih cut (fun hmem => hsign (List.mem_cons_of_mem _ hmem)) hmore with hleft | hcut
        · exact Or.inl (List.mem_cons_of_mem _ hleft)
        · exact Or.inr (hcut.cons _)
  | case3 short hshort =>
      have hlength : short.length < 3 := by
        rcases short with _ | ⟨a, _ | ⟨x, _ | ⟨y, more⟩⟩⟩
        · exact Nat.zero_lt_succ 2
        · exact Nat.le_of_ble_eq_true rfl
        · exact Nat.le_refl 3
        · exact absurd rfl (hshort a x y more)
      rw [unescape_short short hlength, unescape_short cut (Nat.lt_trans h.length_lt hlength)]
      exact Or.inr h

theorem cutShort_decode (cut whole text wholeText : String)
    (hsign : sign ∉ Utf8.encode wholeText) (hwhole : decode whole = .ok wholeText)
    (h : CutShort cut.toList whole.toList) (hcut : decode cut = .ok text) :
    sign ∈ Utf8.encode text ∨ CutShort text.toList wholeText.toList := by
  have htext := (Utf8.decode_eq_ok_iff _ _).mp hcut
  have hwholeText := (Utf8.decode_eq_ok_iff _ _).mp hwhole
  rw [← Utf8.cutShort_encode_iff] at h ⊢
  rw [← hwholeText] at hsign ⊢
  rw [← htext]
  exact cutShort_unescape _ _ hsign h

end Percent

end SamlConformance
