import Mathlib.Algebra.Group.Nat.Defs
import SamlConformance.Proofs.Coding.Base64

/-!
# Which Texts Are Base64

The text of a byte string can be told from other texts without reading it: symbols of the
alphabet and then at most two signs of padding, in whole groups of four, where the last
symbol has nothing in the bits that the padding leaves over. These are four conditions that
a text can break one at a time, and the reader of texts turns away every text that breaks
one of them.

What one writes for bytes is followed three bytes at a time, and a text in four symbols at a
time. Both sides are lists of values below sixty-four and a number of signs behind them;
only at the end are values and symbols exchanged.

## Main definitions

* `Base64.alphabet`: The symbols, each at the place of its value.
* `Base64.Canonical`: The text is made as the text of a byte string is.

## Theorems

* `exists_values_encodeBytes`: What bytes are written by.
* `exists_bytes_of_values`: Such values are those of bytes.
* `exists_encode_iff`: The canonical texts are the texts of byte strings.
* `not_canonical_of_foreign`, `not_canonical_of_interrupted`: What is in no canonical text.
* `canonical_padded_iff`: Which padding symbols want.
-/

namespace SamlConformance

namespace Base64

/-- The standard alphabet, each symbol at the place of its value. -/
def alphabet : List Char :=
  "ABCDEFGHIJKLMNOPQRSTUVWXYZabcdefghijklmnopqrstuvwxyz0123456789+/".toList

/-- The text is `symbols` and then `k` signs of padding. -/
structure Padded (text : String) (symbols : List Char) (k : Nat) : Prop where
  /-- All padding stands at the end. -/
  split : text.toList = symbols ++ List.replicate k '='
  /-- The rest is from the alphabet. -/
  known : ∀ c ∈ symbols, c ∈ alphabet
  /-- Groups are of four characters. -/
  groups : 4 ∣ symbols.length + k
  /-- A group has two symbols at least. -/
  padding : k ≤ 2
  /-- Each sign of padding leaves two bits of the last symbol over, and they are zero. -/
  spare : ∀ c ∈ symbols.getLast?, alphabet.idxOf c % 4 ^ k = 0

/-- The text is made as the text of a byte string is. -/
def Canonical (text : String) : Prop :=
  ∃ symbols k, Padded text symbols k

/-- Values for which `k` signs of padding are missing. -/
structure Fills (vs : List Nat) (k : Nat) : Prop where
  /-- The values are those of symbols. -/
  values : ∀ v ∈ vs, v < 64
  /-- The padding completes a group. -/
  groups : 4 ∣ vs.length + k
  /-- A group has two symbols at least. -/
  padding : k ≤ 2
  /-- Bits left over are zero. -/
  spare : ∀ v ∈ vs.getLast?, v % 4 ^ k = 0

/-- Four values in front change nothing behind. -/
theorem fills_append (vs ws : List Nat) (k : Nat) (hlength : vs.length = 4)
    (hvs : ∀ v ∈ vs, v < 64) : Fills (vs ++ ws) k ↔ Fills ws k := by
  have hgroups : 4 ∣ (vs ++ ws).length + k ↔ 4 ∣ ws.length + k := by
    rw [List.length_append, hlength]
    omega
  constructor
  · rintro ⟨hvalues, hwhole, hk, hspare⟩
    refine ⟨fun w hw => hvalues w (List.mem_append_right _ hw), hgroups.mp hwhole, hk, ?_⟩
    intro w hw
    refine hspare w ?_
    rw [List.getLast?_append, Option.mem_def.mp hw]
    rfl
  · rintro ⟨hvalues, hwhole, hk, hspare⟩
    refine ⟨?_, hgroups.mpr hwhole, hk, ?_⟩
    · exact List.forall_mem_append.mpr ⟨hvs, hvalues⟩
    · intro w hw
      rcases ws with _ | ⟨u, us⟩
      · -- Nothing follows, so that there is no padding either.
        have hzero : k = 0 := by
          rw [List.length_nil] at hwhole
          omega
        rw [hzero, Nat.pow_zero, Nat.mod_one]
      · rw [List.getLast?_append_of_ne_nil _ (List.cons_ne_nil u us)] at hw
        exact hspare w hw

/-- One to three bytes fill a group. -/
theorem fills_digits (bytes : List UInt8) (h1 : 1 ≤ bytes.length) (h3 : bytes.length ≤ 3) :
    Fills (digits bytes) (3 - bytes.length) := by
  have hlength := length_digits bytes h1 h3
  refine ⟨digits_lt bytes, by rw [hlength]; omega, by omega, ?_⟩
  rcases bytes with _ | ⟨a, _ | ⟨b, _ | ⟨c, _ | ⟨d, rest⟩⟩⟩⟩
  · exact absurd h1 (by simp only [List.length_nil]; omega)
  · intro v hv
    have hlast : a.toNat % 4 * 16 = v := Option.some.inj hv
    change v % 16 = 0
    omega
  · intro v hv
    have hlast : b.toNat % 16 * 4 = v := Option.some.inj hv
    change v % 4 = 0
    omega
  · exact fun v _ => Nat.mod_one v
  · exact absurd h3 (by simp only [List.length_cons]; omega)

/-- What bytes are written by: values, and padding that completes the last group. -/
theorem exists_values_encodeBytes (bytes : List UInt8) :
    ∃ vs k, encodeBytes bytes = vs.map symbol ++ List.replicate k pad ∧ Fills vs k := by
  have hshort : ∀ bytes : List UInt8, 1 ≤ bytes.length → bytes.length ≤ 3 →
      ∃ vs k, encodeBytes bytes = vs.map symbol ++ List.replicate k pad ∧ Fills vs k :=
    fun bytes h1 h3 => ⟨_, _, encodeBytes_eq_digits bytes h1 h3, fills_digits bytes h1 h3⟩
  induction bytes using encodeBytes.induct with
  | case1 => exact ⟨[], 0, rfl, by simp, by simp, by simp, by simp⟩
  | case2 a => exact hshort [a] (by simp) (by simp)
  | case3 a b => exact hshort [a, b] (by simp) (by simp)
  | case4 a b c rest ih =>
      rcases ih with ⟨vs, k, hrest, hfills⟩
      refine ⟨digits [a, b, c] ++ vs, k, ?_, ?_⟩
      · have hsplit := encodeBytes_append [a, b, c] rest rfl
        rw [encodeBytes_eq_digits [a, b, c] (by simp) (by simp), hrest] at hsplit
        rw [List.map_append, List.append_assoc]
        exact hsplit
      · exact (fills_append _ vs k rfl (digits_lt [a, b, c])).mpr hfills

/-- Two to four values that fill a group are those of bytes. -/
theorem exists_bytes_of_group (vs : List Nat) (k : Nat) (hlength : vs.length + k = 4)
    (h : Fills vs k) :
    ∃ bytes, encodeBytes bytes = vs.map symbol ++ List.replicate k pad ∧
      bytes.length + 1 = vs.length := by
  have hk := h.padding
  have hassemble : ∃ bytes, assemble vs = some bytes := by
    rcases vs with _ | ⟨v, _ | ⟨w, _ | ⟨x, _ | ⟨y, _ | ⟨z, more⟩⟩⟩⟩⟩
    · exact absurd hlength (by simp only [List.length_nil]; omega)
    · exact absurd hlength (by simp only [List.length_cons, List.length_nil]; omega)
    · have hspare : w % 4 ^ k = 0 := h.spare w rfl
      have htwo : k = 2 := by simp only [List.length_cons, List.length_nil] at hlength; omega
      rw [htwo] at hspare
      exact ⟨_, if_pos hspare⟩
    · have hspare : x % 4 ^ k = 0 := h.spare x rfl
      have hone : k = 1 := by simp only [List.length_cons, List.length_nil] at hlength; omega
      rw [hone] at hspare
      exact ⟨_, if_pos hspare⟩
    · exact ⟨_, rfl⟩
    · exact absurd hlength (by simp only [List.length_cons]; omega)
  rcases hassemble with ⟨bytes, hbytes⟩
  rcases digits_assemble vs bytes h.values hbytes with ⟨hdigits, hcount⟩
  refine ⟨bytes, ?_, hcount⟩
  rw [encodeBytes_eq_digits bytes (by omega) (by omega), hdigits]
  congr 2
  omega

/-- Values that fill groups are those of bytes. -/
theorem exists_bytes_of_values (vs : List Nat) (k : Nat) (h : Fills vs k) :
    ∃ bytes, encodeBytes bytes = vs.map symbol ++ List.replicate k pad := by
  -- On the number of values, of which four are taken off as long as there are four.
  induction hn : vs.length using Nat.strongRecOn generalizing vs with
  | ind n ih =>
      by_cases hshort : vs.length < 4
      · have hgroups := h.groups
        have hpadding := h.padding
        by_cases hzero : vs.length = 0
        · have hk : k = 0 := by omega
          rw [List.eq_nil_of_length_eq_zero hzero, hk]
          exact ⟨[], rfl⟩
        · rcases exists_bytes_of_group vs k (by omega) h with ⟨bytes, hbytes, -⟩
          exact ⟨bytes, hbytes⟩
      · have hfront : (vs.take 4).length = 4 := by rw [List.length_take]; omega
        have hvalues : ∀ v ∈ vs.take 4, v < 64 :=
          fun v hv => h.values v (List.mem_of_mem_take hv)
        have hsplit := List.take_append_drop 4 vs
        rw [← hsplit] at h
        have hrest := (fills_append _ _ k hfront hvalues).mp h
        have hfirst : Fills (vs.take 4) 0 :=
          ⟨hvalues, by omega, by omega, fun v _ => Nat.mod_one v⟩
        rcases exists_bytes_of_group (vs.take 4) 0 (by omega) hfirst with ⟨first, hbytes, hcount⟩
        rcases ih (vs.drop 4).length (by rw [List.length_drop]; omega) (vs.drop 4) hrest rfl
          with ⟨others, hothers⟩
        refine ⟨first ++ others, ?_⟩
        rw [encodeBytes_append first others (by omega), hbytes, hothers, ← List.append_assoc,
          List.replicate_zero, List.append_nil, ← List.map_append, hsplit]

/-- The character of a value. -/
theorem char_symbol : ∀ v (h : v < 64), Char.ofNat (symbol v).toNat = alphabet.get ⟨v, h⟩ := by
  decide

theorem idxOf_char_symbol : ∀ v < 64, alphabet.idxOf (Char.ofNat (symbol v).toNat) = v := by
  decide

theorem toList_encode (bytes : List UInt8) (vs : List Nat) (k : Nat)
    (h : encodeBytes bytes = vs.map symbol ++ List.replicate k pad) :
    (encode bytes).toList =
      vs.map (fun v => Char.ofNat (symbol v).toNat) ++ List.replicate k '=' := by
  rw [encode, String.toList_ofList, h, List.map_append, List.map_map, List.map_replicate]
  rfl

/-- The canonical texts are the texts of byte strings. -/
theorem exists_encode_iff (text : String) :
    (∃ bytes, text = encode bytes) ↔ Canonical text := by
  constructor
  · rintro ⟨bytes, rfl⟩
    rcases exists_values_encodeBytes bytes with ⟨vs, k, hbytes, hfills⟩
    refine ⟨_, k, toList_encode bytes vs k hbytes, ?_, ?_, hfills.padding, ?_⟩
    · intro c hc
      rcases List.mem_map.mp hc with ⟨v, hv, rfl⟩
      rw [char_symbol v (hfills.values v hv)]
      exact List.getElem_mem _
    · rw [List.length_map]
      exact hfills.groups
    · intro c hc
      rw [List.getLast?_map] at hc
      rcases Option.map_eq_some_iff.mp hc with ⟨v, hv, rfl⟩
      rw [idxOf_char_symbol v (hfills.values v (List.mem_of_getLast? hv))]
      exact hfills.spare v hv
  · rintro ⟨symbols, k, hpadded⟩
    have hfills : Fills (symbols.map alphabet.idxOf) k := by
      refine ⟨?_, by rw [List.length_map]; exact hpadded.groups, hpadded.padding, ?_⟩
      · intro v hv
        rcases List.mem_map.mp hv with ⟨c, hc, rfl⟩
        exact List.idxOf_lt_length_of_mem (hpadded.known c hc)
      · intro v hv
        rw [List.getLast?_map] at hv
        rcases Option.map_eq_some_iff.mp hv with ⟨c, hc, rfl⟩
        exact hpadded.spare c hc
    rcases exists_bytes_of_values _ k hfills with ⟨bytes, hbytes⟩
    refine ⟨bytes, String.toList_inj.mp ?_⟩
    -- Each symbol is at its own place in the alphabet.
    have hsymbols : (symbols.map alphabet.idxOf).map (fun v => Char.ofNat (symbol v).toNat) =
        symbols := by
      rw [List.map_map]
      refine (List.map_congr_left fun c hc => ?_).trans (List.map_id symbols)
      have hlt := List.idxOf_lt_length_of_mem (hpadded.known c hc)
      rw [Function.comp_apply, char_symbol _ hlt]
      exact List.getElem_idxOf hlt
    rw [toList_encode bytes _ k hbytes, hsymbols, hpadded.split]

/-- No character outside of the alphabet is in a canonical text, but for the padding. -/
theorem not_canonical_of_foreign (text : String) (c : Char) (hc : c ∈ text.toList)
    (hsymbol : c ∉ alphabet) (hpad : c ≠ '=') : ¬ Canonical text := by
  rintro ⟨symbols, k, hpadded⟩
  rw [hpadded.split] at hc
  rcases List.mem_append.mp hc with hmem | hmem
  · exact hsymbol (hpadded.known c hmem)
  · exact hpad (List.eq_of_mem_replicate hmem)

/-- No padding stands in front of anything else. -/
theorem not_canonical_of_interrupted (text : String) (before after : List Char) (c : Char)
    (htext : text.toList = before ++ '=' :: c :: after) (hc : c ≠ '=') : ¬ Canonical text := by
  have hpad : '=' ∉ alphabet := by decide
  rintro ⟨symbols, k, hpadded⟩
  rw [hpadded.split] at htext
  have hreplicate : ∀ tail, List.replicate k '=' = tail → ∀ d ∈ tail, d = '=' :=
    fun tail htail d hd => List.eq_of_mem_replicate (htail ▸ hd)
  -- The sign is among the symbols, or all that follows it is padding.
  rcases List.append_eq_append_iff.mp htext with ⟨more, -, hpads⟩ | ⟨more, hsymbols, hpads⟩
  · exact hc (hreplicate _ hpads c (List.mem_append_right _ (List.mem_cons_of_mem _
      List.mem_cons_self)))
  · rcases more with _ | ⟨d, more⟩
    · exact hc (hreplicate _ hpads.symm c (List.mem_cons_of_mem _ List.mem_cons_self))
    · have hd : '=' = d := (List.cons.inj hpads).1
      refine hpad (hd ▸ hpadded.known d ?_)
      rw [hsymbols]
      exact List.mem_append_right _ List.mem_cons_self

/-- Symbols with padding behind them are canonical if the padding is as long as it has to be
and what it leaves over of the last symbol is zero. -/
theorem canonical_padded_iff (symbols : List Char) (k : Nat) (h : ∀ c ∈ symbols, c ∈ alphabet) :
    Canonical (String.ofList (symbols ++ List.replicate k '=')) ↔
      4 ∣ symbols.length + k ∧ k ≤ 2 ∧
        ∀ c ∈ symbols.getLast?, alphabet.idxOf c % 4 ^ k = 0 := by
  have hpad : '=' ∉ alphabet := by decide
  have hsymbols : ∀ (s : List Char) (j : Nat), (∀ c ∈ s, c ∈ alphabet) →
      (s ++ List.replicate j '=').takeWhile (· != '=') = s := by
    intro s j hs
    have hne : ∀ c ∈ s, (c != '=') = true :=
      fun c hc => bne_iff_ne.mpr fun heq => hpad (heq ▸ hs c hc)
    rw [List.takeWhile_append_of_pos hne, List.takeWhile_replicate]
    simp only [bne_self_eq_false, Bool.false_eq_true, if_false, List.append_nil]
  constructor
  · rintro ⟨symbols', k', hpadded⟩
    have hsplit := hpadded.split
    rw [String.toList_ofList] at hsplit
    -- The symbols are what stands in front of the padding, in both ways to write the text.
    have hsame : symbols = symbols' := by
      rw [← hsymbols symbols k h, hsplit, hsymbols symbols' k' hpadded.known]
    rw [← hsame] at hpadded hsplit
    have hk : k = k' := by
      have hlength := congrArg List.length (List.append_cancel_left hsplit)
      rwa [List.length_replicate, List.length_replicate] at hlength
    rw [← hk] at hpadded
    exact ⟨hpadded.groups, hpadded.padding, hpadded.spare⟩
  · rintro ⟨hgroups, hpadding, hspare⟩
    exact ⟨symbols, k, String.toList_ofList, h, hgroups, hpadding, hspare⟩

end Base64

end SamlConformance
