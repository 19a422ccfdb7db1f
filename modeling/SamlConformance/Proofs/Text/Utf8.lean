import SamlConformance.Text.Utf8

/-!
# Texts and Their Bytes

A text is given by its bytes. Texts that are built from bytes come from
encodings with an alphabet of their own, all of it in ASCII; such a text has one
byte for each character, and these are the bytes that it was built from.

## Theorems

* `encode_injective`: No two texts have the same bytes.
* `encode_ofList_ascii`: The bytes of a text of ASCII characters.
* `decode_eq_ok_iff`: The bytes that are read as a text are those of the text.
* `ofNat_of_mem_utf8EncodeChar`, `mem_toList_of_mem_encode`: A byte in ASCII is a
  character.
-/

namespace SamlConformance

namespace Utf8

theorem encode_injective (s t : String) (h : encode s = encode t) : s = t := by
  have hs := decode_encode s
  rw [h, decode_encode t] at hs
  exact (Except.ok.inj hs).symm

theorem encode_ofList (cs : List Char) :
    encode (String.ofList cs) = cs.flatMap String.utf8EncodeChar := by
  rw [encode, String.toByteArray_ofList, List.utf8Encode, List.toList_data_toByteArray]

theorem toNat_ofNat_ascii (n : Nat) (h : n < 128) : (Char.ofNat n).toNat = n := by
  have hvalid : n.isValidChar := Or.inl (by omega)
  rw [Char.ofNat, dif_pos hvalid]
  rfl

theorem utf8EncodeChar_ascii (b : UInt8) (h : b.toNat < 128) :
    String.utf8EncodeChar (Char.ofNat b.toNat) = [b] := by
  have hval : (Char.ofNat b.toNat).val.toNat = b.toNat := toNat_ofNat_ascii b.toNat h
  simp only [String.utf8EncodeChar, hval]
  rw [if_pos (by omega), UInt8.ofNat_toNat]

/-- A text built from ASCII bytes has these bytes. -/
theorem encode_ofList_ascii (bytes : List UInt8) (h : ∀ b ∈ bytes, b.toNat < 128) :
    encode (String.ofList (bytes.map fun b => Char.ofNat b.toNat)) = bytes := by
  rw [encode_ofList]
  induction bytes with
  | nil => rfl
  | cons b bytes ih =>
      rw [List.map_cons, List.flatMap_cons, ih fun c hc => h c (List.mem_cons_of_mem b hc),
        utf8EncodeChar_ascii b (h b List.mem_cons_self), List.singleton_append]

/-- The bytes that are read as a text are those of the text. -/
theorem decode_eq_ok_iff (bytes : List UInt8) (s : String) :
    decode bytes = .ok s ↔ bytes = encode s := by
  constructor
  · intro h
    unfold decode at h
    simp only at h
    split at h
    · rw [← Except.ok.inj h, encode]
    · exact absurd h (by simp only [reduceCtorEq, not_false_eq_true])
  · rintro rfl
    exact decode_encode s

theorem encode_eq_flatMap (s : String) : encode s = s.toList.flatMap String.utf8EncodeChar := by
  rw [← encode_ofList, String.ofList_toList]

/-- A character in ASCII is the byte of its number. -/
theorem utf8EncodeChar_low (c : Char) (h : c.toNat < 128) :
    String.utf8EncodeChar c = [UInt8.ofNat c.toNat] := by
  have hval : c.val.toNat = c.toNat := rfl
  simp only [String.utf8EncodeChar, hval]
  rw [if_pos (by omega)]

/-- No byte of another character is in ASCII. -/
theorem high_utf8EncodeChar (c : Char) (h : 128 ≤ c.toNat) (b : UInt8)
    (hb : b ∈ String.utf8EncodeChar c) : 128 ≤ b.toNat := by
  have hval : c.val.toNat = c.toNat := rfl
  simp only [String.utf8EncodeChar, hval] at hb
  rw [if_neg (by omega)] at hb
  split at hb
  · simp only [List.mem_cons, List.not_mem_nil, or_false] at hb
    rcases hb with rfl | rfl <;> simp only [UInt8.toNat_ofNat'] <;> omega
  split at hb
  · simp only [List.mem_cons, List.not_mem_nil, or_false] at hb
    rcases hb with rfl | rfl | rfl <;> simp only [UInt8.toNat_ofNat'] <;> omega
  · simp only [List.mem_cons, List.not_mem_nil, or_false] at hb
    rcases hb with rfl | rfl | rfl | rfl <;> simp only [UInt8.toNat_ofNat'] <;> omega

/-- A byte in ASCII is a byte of its own character only. -/
theorem ofNat_of_mem_utf8EncodeChar (c : Char) (b : UInt8) (hlow : b.toNat < 128)
    (h : b ∈ String.utf8EncodeChar c) : Char.ofNat b.toNat = c := by
  by_cases hascii : c.toNat < 128
  · rw [utf8EncodeChar_low c hascii, List.mem_singleton] at h
    have hnat : b.toNat = c.toNat := by
      rw [h, UInt8.toNat_ofNat']
      omega
    rw [hnat, Char.ofNat_toNat]
  · have := high_utf8EncodeChar c (by omega) b h
    omega

/-- A byte in ASCII among those of a text is a character of the text. -/
theorem mem_toList_of_mem_encode (s : String) (b : UInt8) (hlow : b.toNat < 128)
    (h : b ∈ encode s) : Char.ofNat b.toNat ∈ s.toList := by
  rw [encode_eq_flatMap, List.mem_flatMap] at h
  rcases h with ⟨c, hc, hb⟩
  rw [ofNat_of_mem_utf8EncodeChar c b hlow hb]
  exact hc

end Utf8

end SamlConformance
