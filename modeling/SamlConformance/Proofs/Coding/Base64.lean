import Mathlib.Data.List.Basic
import SamlConformance.Coding.Base64
import SamlConformance.Proofs.Text.Utf8
import SamlConformance.Text.Blank

/-!
# One Spelling for Each Byte String

Reading inverts writing, in both directions: a text is read as a byte string
exactly if it is the text of that byte string. The second half is the strictness of
the reader. It turns away padding that is missing, early or interrupted, and a last
symbol with spare bits, and nothing more has to be turned away for the spelling to
be unique.

Both directions go through the values below sixty-four that the symbols stand for.
A group of symbols is read by looking up its values and assembling them, so the
lemmas come in pairs, one for each of these two steps. Texts are then followed
group by group, the last group apart from the others.

## Main definitions

* `Base64.digits`: The values that one to three bytes are written by.

## Theorems

* `values_eq_ok_iff`: The values of symbols.
* `assemble_digits`, `digits_assemble`: Assembling inverts taking digits, and conversely.
* `lastGroup_eq_ok_iff`, `fullGroup_eq_ok_iff`: What a group is read as.
* `decodeFrom_eq_ok_iff`, `decode_eq_ok_iff`: A text is read as a byte string exactly
  if it is its text.
* `not_anyBlank_encode`: No text of a byte string has blanks in it.
-/

namespace SamlConformance

namespace Base64

theorem ofNat_eq_of_toNat (n : Nat) (b : UInt8) (h : n = b.toNat) : UInt8.ofNat n = b := by
  rw [h, UInt8.ofNat_toNat]

/-- A symbol is the one of its value, which is below sixty-four. -/
theorem symbol_value? (b : UInt8) (v : Nat) (h : value? b = some v) : v < 64 ∧ symbol v = b := by
  simp only [value?] at h
  unfold symbol
  -- One case for each range of the alphabet, and one for each of its last two symbols.
  split at h
  · have hv := Option.some.inj h
    rw [if_pos (by omega), ofNat_eq_of_toNat _ b (by omega)]
    exact ⟨by omega, rfl⟩
  split at h
  · have hv := Option.some.inj h
    rw [if_neg (by omega), if_pos (by omega), ofNat_eq_of_toNat _ b (by omega)]
    exact ⟨by omega, rfl⟩
  split at h
  · have hv := Option.some.inj h
    rw [if_neg (by omega), if_neg (by omega), if_pos (by omega), ofNat_eq_of_toNat _ b (by omega)]
    exact ⟨by omega, rfl⟩
  split at h
  · rename_i hn
    rw [← Option.some.inj h]
    exact ⟨by omega, (ofNat_eq_of_toNat 43 b hn.symm)⟩
  split at h
  · rename_i hn
    rw [← Option.some.inj h]
    exact ⟨by omega, (ofNat_eq_of_toNat 47 b hn.symm)⟩
  · exact absurd h (by simp only [reduceCtorEq, not_false_eq_true])

theorem symbol_ne_pad (v : Nat) (h : v < 64) : symbol v ≠ pad := by
  intro hpad
  have hv := value?_symbol v h
  have hnone : value? pad = none := by decide
  rw [hpad, hnone] at hv
  exact absurd hv (by simp only [reduceCtorEq, not_false_eq_true])

/-- The values of symbols are those the symbols are written for. -/
theorem values_eq_ok_iff (offset : Nat) (bs : List UInt8) (vs : List Nat) :
    values offset bs = .ok vs ↔ bs = vs.map symbol ∧ ∀ v ∈ vs, v < 64 := by
  induction bs generalizing offset vs with
  | nil =>
      constructor
      · intro h
        rw [← Except.ok.inj h]
        exact ⟨rfl, fun v hv => absurd hv List.not_mem_nil⟩
      · rintro ⟨h, -⟩
        rw [List.map_eq_nil_iff.mp h.symm]
        rfl
  | cons b bs ih =>
      unfold values
      constructor
      · intro h
        split at h
        · exact absurd h (by simp only [reduceCtorEq, not_false_eq_true])
        · rename_i v hv
          cases hrest : values (offset + 1) bs with
          | error f =>
              rw [hrest] at h
              exact absurd h (by simp only [Except.map, reduceCtorEq, not_false_eq_true])
          | ok ws =>
              rw [hrest] at h
              have hvs : v :: ws = vs := Except.ok.inj h
              rcases (ih (offset + 1) ws).mp hrest with ⟨hbs, hws⟩
              rcases symbol_value? b v hv with ⟨hlt, hb⟩
              rw [← hvs, List.map_cons, hb, ← hbs]
              exact ⟨rfl, List.forall_mem_cons.mpr ⟨hlt, hws⟩⟩
      · -- The first symbol has a value, and the others by induction.
        rintro ⟨h, hvs⟩
        rcases List.map_eq_cons_iff.mp h.symm with ⟨v, ws, rfl, hb, hbs⟩
        rcases List.forall_mem_cons.mp hvs with ⟨hlt, hws⟩
        rw [← hb, value?_symbol v hlt, (ih (offset + 1) ws).mpr ⟨hbs.symm, hws⟩]
        rfl

/-- The values that one to three bytes are written by. -/
def digits : List UInt8 → List Nat
  | [a] => [a.toNat / 4, a.toNat % 4 * 16]
  | [a, b] => [a.toNat / 4, a.toNat % 4 * 16 + b.toNat / 16, b.toNat % 16 * 4]
  | [a, b, c] =>
    [a.toNat / 4, a.toNat % 4 * 16 + b.toNat / 16, b.toNat % 16 * 4 + c.toNat / 64,
      c.toNat % 64]
  | _ => []

/-- Every digit is below sixty-four. -/
theorem digits_lt (bytes : List UInt8) : ∀ v ∈ digits bytes, v < 64 := by
  intro v hv
  unfold digits at hv
  split at hv
  · rename_i a
    have ha := a.toNat_lt
    simp only [List.mem_cons, List.not_mem_nil, or_false] at hv
    omega
  · rename_i a b
    have ha := a.toNat_lt
    have hb := b.toNat_lt
    simp only [List.mem_cons, List.not_mem_nil, or_false] at hv
    omega
  · rename_i a b c
    have ha := a.toNat_lt
    have hb := b.toNat_lt
    have hc := c.toNat_lt
    simp only [List.mem_cons, List.not_mem_nil, or_false] at hv
    omega
  · exact absurd hv List.not_mem_nil

theorem length_digits (bytes : List UInt8) (h1 : 1 ≤ bytes.length) (h3 : bytes.length ≤ 3) :
    (digits bytes).length = bytes.length + 1 := by
  match bytes with
  | [] => exact absurd h1 (by simp only [List.length_nil]; omega)
  | [a] => rfl
  | [a, b] => rfl
  | [a, b, c] => rfl
  | _ :: _ :: _ :: _ :: _ => exact absurd h3 (by simp only [List.length_cons]; omega)

/-- Assembling the digits of bytes gives the bytes back. -/
theorem assemble_digits (bytes : List UInt8) (h1 : 1 ≤ bytes.length) (h3 : bytes.length ≤ 3) :
    assemble (digits bytes) = some bytes := by
  match bytes with
  | [] => exact absurd h1 (by simp only [List.length_nil]; omega)
  | [a] =>
      rw [digits, assemble, if_pos (by omega), ofNat_eq_of_toNat _ a (by omega)]
  | [a, b] =>
      have hb := b.toNat_lt
      rw [digits, assemble, if_pos (by omega), ofNat_eq_of_toNat _ a (by omega),
        ofNat_eq_of_toNat _ b (by omega)]
  | [a, b, c] =>
      have hb := b.toNat_lt
      have hc := c.toNat_lt
      rw [digits, assemble, ofNat_eq_of_toNat _ a (by omega), ofNat_eq_of_toNat _ b (by omega),
        ofNat_eq_of_toNat _ c (by omega)]
  | _ :: _ :: _ :: _ :: _ => exact absurd h3 (by simp only [List.length_cons]; omega)

/-- What values are assembled to has these values as its digits, because no bits
are spare. -/
theorem digits_assemble (vs : List Nat) (bytes : List UInt8) (hvs : ∀ v ∈ vs, v < 64)
    (h : assemble vs = some bytes) : digits bytes = vs ∧ bytes.length + 1 = vs.length := by
  -- Two, three or four values: the first two of these cases leave bits over, which
  -- are zero, so that the values can be computed back.
  unfold assemble at h
  split at h
  · rename_i v w
    have hv := hvs v (by simp only [List.mem_cons, true_or])
    have hw := hvs w (by simp only [List.mem_cons, true_or, or_true])
    have hfirst : v * 4 + w / 16 < 256 := by omega
    split at h
    · rw [← Option.some.inj h]
      simp only [digits, UInt8.toNat_ofNat_of_lt' hfirst, List.cons.injEq, List.length_cons,
        List.length_nil, and_true]
      omega
    · exact absurd h (by simp only [reduceCtorEq, not_false_eq_true])
  · rename_i v w x
    have hv := hvs v (by simp only [List.mem_cons, true_or])
    have hw := hvs w (by simp only [List.mem_cons, true_or, or_true])
    have hx := hvs x (by simp only [List.mem_cons, true_or, or_true])
    have hfirst : v * 4 + w / 16 < 256 := by omega
    have hsecond : w % 16 * 16 + x / 4 < 256 := by omega
    split at h
    · rw [← Option.some.inj h]
      simp only [digits, UInt8.toNat_ofNat_of_lt' hfirst, UInt8.toNat_ofNat_of_lt' hsecond,
        List.cons.injEq, List.length_cons, List.length_nil, and_true]
      omega
    · exact absurd h (by simp only [reduceCtorEq, not_false_eq_true])
  · rename_i v w x y
    have hv := hvs v (by simp only [List.mem_cons, true_or])
    have hw := hvs w (by simp only [List.mem_cons, true_or, or_true])
    have hx := hvs x (by simp only [List.mem_cons, true_or, or_true])
    have hy := hvs y (by simp only [List.mem_cons, true_or, or_true])
    have hfirst : v * 4 + w / 16 < 256 := by omega
    have hsecond : w % 16 * 16 + x / 4 < 256 := by omega
    have hthird : x % 4 * 64 + y < 256 := by omega
    rw [← Option.some.inj h]
    simp only [digits, UInt8.toNat_ofNat_of_lt' hfirst, UInt8.toNat_ofNat_of_lt' hsecond,
      UInt8.toNat_ofNat_of_lt' hthird, List.cons.injEq, List.length_cons, List.length_nil,
      and_true]
    omega
  · exact absurd h (by simp only [reduceCtorEq, not_false_eq_true])

/-- One to three bytes are written by their digits, and padded to four symbols. -/
theorem encodeBytes_eq_digits (bytes : List UInt8) (h1 : 1 ≤ bytes.length)
    (h3 : bytes.length ≤ 3) :
    encodeBytes bytes =
      (digits bytes).map symbol ++ List.replicate (3 - bytes.length) pad := by
  match bytes with
  | [] => exact absurd h1 (by simp only [List.length_nil]; omega)
  | [a] => rfl
  | [a, b] => rfl
  | [a, b, c] => rfl
  | _ :: _ :: _ :: _ :: _ => exact absurd h3 (by simp only [List.length_cons]; omega)

/-- Three bytes are written without a look at what follows. -/
theorem encodeBytes_append (bytes rest : List UInt8) (h : bytes.length = 3) :
    encodeBytes (bytes ++ rest) = encodeBytes bytes ++ encodeBytes rest := by
  match bytes with
  | [a, b, c] => rfl

theorem length_encodeBytes (bytes : List UInt8) :
    (encodeBytes bytes).length = 4 * ((bytes.length + 2) / 3) := by
  induction bytes using encodeBytes.induct with
  | case1 => rfl
  | case2 a => simp only [encodeBytes, List.length_cons, List.length_nil]
  | case3 a b => simp only [encodeBytes, List.length_cons, List.length_nil]
  | case4 a b c rest ih =>
      simp only [encodeBytes, List.length_cons, ih]
      omega

/-- A group that is not the last is read as the three bytes that it is the text of. -/
theorem fullGroup_eq_ok_iff (offset : Nat) (group bytes : List UInt8) (h4 : group.length = 4) :
    fullGroup offset group = .ok bytes ↔ bytes.length = 3 ∧ group = encodeBytes bytes := by
  constructor
  · intro h
    unfold fullGroup at h
    cases hvalues : values offset group with
    | error f =>
        rw [hvalues] at h
        exact absurd h (by simp only [bind, Except.bind, reduceCtorEq, not_false_eq_true])
    | ok vs =>
        rw [hvalues] at h
        rcases (values_eq_ok_iff offset group vs).mp hvalues with ⟨hgroup, hvs⟩
        rw [hgroup, List.length_map] at h4
        -- Four values are always assembled.
        have hassemble : assemble vs = some bytes := by
          match vs with
          | [v, w, x, y] => exact congrArg some (Except.ok.inj h)
        rcases digits_assemble vs bytes hvs hassemble with ⟨hdigits, hlength⟩
        have hbytes : bytes.length = 3 := by omega
        refine ⟨hbytes, ?_⟩
        rw [encodeBytes_eq_digits bytes (by omega) (by omega), hbytes, hdigits, hgroup]
        exact (List.append_nil _).symm
  · rintro ⟨hbytes, rfl⟩
    have hvalues : values offset (encodeBytes bytes) = .ok (digits bytes) := by
      rw [encodeBytes_eq_digits bytes (by omega) (by omega), hbytes, values_eq_ok_iff]
      exact ⟨List.append_nil _, digits_lt bytes⟩
    rw [fullGroup, hvalues]
    simp only [bind, Except.bind, assemble_digits bytes (by omega) (by omega), Option.getD_some]
    rfl

/-- Where symbols are followed by padding, the two are told apart. -/
theorem cut_symbols (vs : List Nat) (k : Nat) (hvs : ∀ v ∈ vs, v < 64) :
    (vs.map symbol ++ List.replicate k pad).takeWhile (· != pad) = vs.map symbol ∧
      (vs.map symbol ++ List.replicate k pad).dropWhile (· != pad) = List.replicate k pad := by
  have hsymbol : ∀ b ∈ vs.map symbol, (b != pad) = true := by
    intro b hb
    rcases List.mem_map.mp hb with ⟨v, hv, rfl⟩
    exact bne_iff_ne.mpr (symbol_ne_pad v (hvs v hv))
  rw [List.takeWhile_append_of_pos hsymbol, List.dropWhile_append_of_pos hsymbol,
    List.takeWhile_replicate, List.dropWhile_replicate]
  simp only [bne_self_eq_false, Bool.false_eq_true, if_false, List.append_nil, and_self]

/-- Where nothing is no padding, everything is padding. -/
theorem eq_replicate_of_not_any (l : List UInt8) (h : l.any (· != pad) = false) :
    l = List.replicate l.length pad := by
  rw [List.any_eq_false] at h
  refine List.eq_replicate_iff.mpr ⟨rfl, ?_⟩
  intro b hb
  by_contra hne
  exact h b hb (bne_iff_ne.mpr hne)

/-- The last group is read as the one to three bytes that it is the text of. -/
theorem lastGroup_eq_ok_iff (offset : Nat) (group bytes : List UInt8) :
    lastGroup offset group = .ok bytes ↔
      1 ≤ bytes.length ∧ bytes.length ≤ 3 ∧ group = encodeBytes bytes := by
  constructor
  · intro h
    simp only [lastGroup] at h
    split at h
    · exact absurd h (by simp only [reduceCtorEq, not_false_eq_true])
    rename_i vs hvalues
    split at h
    · exact absurd h (by simp only [reduceCtorEq, not_false_eq_true])
    rename_i hpadding
    split at h
    · exact absurd h (by simp only [reduceCtorEq, not_false_eq_true])
    rename_i hcount
    split at h
    · exact absurd h (by simp only [reduceCtorEq, not_false_eq_true])
    rename_i h4
    split at h
    case h_2 => exact absurd h (by simp only [reduceCtorEq, not_false_eq_true])
    rename_i bs hassemble
    rw [← Except.ok.inj h]
    rcases (values_eq_ok_iff offset _ vs).mp hvalues with ⟨hsymbols, hvs⟩
    rcases digits_assemble vs bs hvs hassemble with ⟨hdigits, hlength⟩
    -- The group is its symbols and then its padding, of which nothing is no padding.
    have hsplit := List.takeWhile_append_dropWhile (p := (· != pad)) (l := group)
    have hvslen : (group.takeWhile (· != pad)).length = vs.length := by
      rw [hsymbols, List.length_map]
    have htotal := congrArg List.length hsplit
    rw [List.length_append, hvslen] at htotal
    have hnone : (group.dropWhile (· != pad)).any (· != pad) = false := by
      cases hpads : group.dropWhile (· != pad) with
      | nil => rfl
      | cons b bs =>
          rw [hpads] at hpadding
          simp only [List.isEmpty_cons, Bool.not_false, Bool.true_and, Bool.or_eq_true,
            not_or, Bool.not_eq_true] at hpadding
          exact hpadding.2
    have hpads := eq_replicate_of_not_any _ hnone
    rw [show (group.dropWhile (· != pad)).length = 3 - bs.length by omega] at hpads
    refine ⟨by omega, by omega, ?_⟩
    rw [encodeBytes_eq_digits bs (by omega) (by omega), hdigits, ← hsymbols, ← hpads, hsplit]
  · rintro ⟨h1, h3, rfl⟩
    rw [encodeBytes_eq_digits bytes h1 h3]
    rcases cut_symbols _ (3 - bytes.length) (digits_lt bytes) with ⟨htake, hdrop⟩
    have hlength := length_digits bytes h1 h3
    have hvalues : values offset ((digits bytes).map symbol) = .ok (digits bytes) :=
      (values_eq_ok_iff offset _ _).mpr ⟨rfl, digits_lt bytes⟩
    have hpadding : (List.replicate (3 - bytes.length) pad).any (· != pad) = false := by
      rw [List.any_eq_false]
      intro b hb
      rw [List.eq_of_mem_replicate hb, bne_self_eq_false]
      exact Bool.false_ne_true
    simp only [lastGroup, htake, hdrop, hvalues, hpadding, List.length_map, hlength,
      assemble_digits bytes h1 h3]
    rw [if_neg (by simp only [Bool.or_false, Bool.and_eq_true, decide_eq_true_eq]; omega),
      if_neg (by omega), if_neg]
    rw [List.length_append, List.length_map, List.length_replicate, hlength]
    omega

/-- A text of more than four symbols is that of three bytes, and then that of the
others. -/
theorem eq_encodeBytes_iff (a b c d e : UInt8) (rest bytes : List UInt8) :
    a :: b :: c :: d :: e :: rest = encodeBytes bytes ↔
      ∃ first others, bytes = first ++ others ∧ first.length = 3 ∧
        [a, b, c, d] = encodeBytes first ∧ e :: rest = encodeBytes others := by
  constructor
  · intro h
    -- The text of fewer than three bytes is too short.
    match bytes with
    | [] => exact absurd h (by simp only [encodeBytes, reduceCtorEq, not_false_eq_true])
    | [x] =>
        exact absurd h (by
          simp only [encodeBytes, List.cons.injEq, reduceCtorEq, and_false, not_false_eq_true])
    | [x, y] =>
        exact absurd h (by
          simp only [encodeBytes, List.cons.injEq, reduceCtorEq, and_false, not_false_eq_true])
    | x :: y :: z :: others =>
        have hsplit := encodeBytes_append [x, y, z] others rfl
        rw [List.cons_append, List.cons_append, List.cons_append, List.nil_append, ← h] at hsplit
        exact ⟨[x, y, z], others, rfl, rfl, List.append_inj hsplit rfl⟩
  · rintro ⟨first, others, rfl, h3, hfirst, hothers⟩
    rw [encodeBytes_append first others h3, ← hfirst, ← hothers]
    rfl

/-- A text that is neither empty nor longer than four symbols is its last group. -/
theorem decodeFrom_short (offset : Nat) (group : List UInt8) (hnil : group = [] → False)
    (hlong : ∀ a b c d e rest, group = a :: b :: c :: d :: e :: rest → False) :
    decodeFrom offset group = lastGroup offset group ∧ 1 ≤ group.length ∧ group.length ≤ 4 := by
  refine ⟨by rw [decodeFrom] <;> assumption, ?_⟩
  rcases group with _ | ⟨a, _ | ⟨b, _ | ⟨c, _ | ⟨d, _ | ⟨e, rest⟩⟩⟩⟩⟩
  · exact absurd rfl hnil
  · simp only [List.length_cons, List.length_nil]; omega
  · simp only [List.length_cons, List.length_nil]; omega
  · simp only [List.length_cons, List.length_nil]; omega
  · simp only [List.length_cons, List.length_nil]; omega
  · exact absurd rfl (hlong a b c d e rest)

/-- Reading a text group by group gives a byte string exactly if the text is that of
the byte string. -/
theorem decodeFrom_eq_ok_iff (offset : Nat) (text bytes : List UInt8) :
    decodeFrom offset text = .ok bytes ↔ text = encodeBytes bytes := by
  -- The offset only shows in faults, but it moves along with the text.
  induction offset, text using decodeFrom.induct generalizing bytes with
  | case1 offset =>
      rw [decodeFrom]
      constructor
      · intro h
        rw [← Except.ok.inj h]
        rfl
      · intro h
        have hlength := length_encodeBytes bytes
        rw [← h, List.length_nil] at hlength
        rw [List.eq_nil_of_length_eq_zero (l := bytes) (by omega)]
  | case2 offset a b c d e rest f hfirst =>
      rw [decodeFrom, hfirst, eq_encodeBytes_iff]
      constructor
      · intro h
        exact absurd h (by simp only [reduceCtorEq, not_false_eq_true])
      · rintro ⟨first, others, rfl, h3, hgroup, -⟩
        rw [(fullGroup_eq_ok_iff offset _ first rfl).mpr ⟨h3, hgroup⟩] at hfirst
        exact absurd hfirst (by simp only [reduceCtorEq, not_false_eq_true])
  | case3 offset a b c d e rest first hfirst ih =>
      rcases (fullGroup_eq_ok_iff offset _ first rfl).mp hfirst with ⟨h3, hgroup⟩
      rw [decodeFrom, hfirst, eq_encodeBytes_iff]
      constructor
      · intro h
        cases hothers : decodeFrom (offset + 4) (e :: rest) with
        | error f =>
            rw [hothers] at h
            exact absurd h (by simp only [Except.map, reduceCtorEq, not_false_eq_true])
        | ok others =>
            rw [hothers] at h
            exact ⟨first, others, (Except.ok.inj h).symm, h3, hgroup, (ih others).mp hothers⟩
      · rintro ⟨first', others, rfl, h3', hgroup', hothers⟩
        -- The first four symbols are read as these three bytes and no others.
        have hfirst' := (fullGroup_eq_ok_iff offset _ first' rfl).mpr ⟨h3', hgroup'⟩
        rw [hfirst] at hfirst'
        rw [(ih others).mpr hothers, Except.ok.inj hfirst']
        rfl
  | case4 offset group hnil hlong =>
      have hshort := decodeFrom_short offset group hnil hlong
      rw [hshort.1, lastGroup_eq_ok_iff]
      constructor
      · rintro ⟨-, -, h⟩
        exact h
      · intro h
        -- One to four symbols are the text of one to three bytes.
        have hlength := length_encodeBytes bytes
        rw [← h] at hlength
        exact ⟨by omega, by omega, h⟩

/-- What stands alone in its group is looked at first, but no text leaves one
symbol over. -/
theorem strayLast?_encodeBytes (bytes : List UInt8) : strayLast? (encodeBytes bytes) = none := by
  rw [strayLast?, length_encodeBytes, if_neg (by omega)]

theorem decodeBytes_eq_ok_iff (text bytes : List UInt8) :
    decodeBytes text = .ok bytes ↔ text = encodeBytes bytes := by
  unfold decodeBytes
  constructor
  · intro h
    split at h
    · exact absurd h (by simp only [reduceCtorEq, not_false_eq_true])
    · exact (decodeFrom_eq_ok_iff 0 text bytes).mp h
  · rintro rfl
    rw [strayLast?_encodeBytes]
    exact (decodeFrom_eq_ok_iff 0 _ bytes).mpr rfl

theorem mem_encodeBytes_group (bytes : List UInt8) (h1 : 1 ≤ bytes.length)
    (h3 : bytes.length ≤ 3) (b : UInt8) (hb : b ∈ encodeBytes bytes) :
    b = pad ∨ ∃ v < 64, b = symbol v := by
  rw [encodeBytes_eq_digits bytes h1 h3] at hb
  rcases List.mem_append.mp hb with hsymbol | hpad
  · rcases List.mem_map.mp hsymbol with ⟨v, hv, rfl⟩
    exact Or.inr ⟨v, digits_lt bytes v hv, rfl⟩
  · exact Or.inl (List.eq_of_mem_replicate hpad)

/-- A text consists of symbols and padding. -/
theorem mem_encodeBytes (bytes : List UInt8) (b : UInt8) (hb : b ∈ encodeBytes bytes) :
    b = pad ∨ ∃ v < 64, b = symbol v := by
  induction bytes using encodeBytes.induct with
  | case1 => exact absurd hb List.not_mem_nil
  | case2 x =>
      exact mem_encodeBytes_group [x] (Nat.le_of_ble_eq_true rfl) (Nat.le_of_ble_eq_true rfl) b hb
  | case3 x y =>
      exact mem_encodeBytes_group [x, y] (Nat.le_of_ble_eq_true rfl)
        (Nat.le_of_ble_eq_true rfl) b hb
  | case4 x y z rest ih =>
      -- The first group is one of three bytes, and the others are the induction.
      have hsplit := encodeBytes_append [x, y, z] rest rfl
      rw [List.cons_append, List.cons_append, List.cons_append, List.nil_append] at hsplit
      rw [hsplit] at hb
      rcases List.mem_append.mp hb with hfirst | hrest
      · exact mem_encodeBytes_group [x, y, z] (Nat.le_of_ble_eq_true rfl)
          (Nat.le_of_ble_eq_true rfl) b hfirst
      · exact ih hrest

theorem symbol_visible :
    ∀ v < 64, (symbol v).toNat < 128 ∧ Text.isBlank (Char.ofNat (symbol v).toNat) = false := by
  decide

theorem pad_visible : pad.toNat < 128 ∧ Text.isBlank (Char.ofNat pad.toNat) = false := by
  decide

/-- No symbol is a blank, and all of them are ASCII. -/
theorem visible_encodeBytes (bytes : List UInt8) (b : UInt8) (hb : b ∈ encodeBytes bytes) :
    b.toNat < 128 ∧ Text.isBlank (Char.ofNat b.toNat) = false := by
  rcases mem_encodeBytes bytes b hb with rfl | ⟨v, hv, rfl⟩
  · exact pad_visible
  · exact symbol_visible v hv

/-- The bytes of a text are the symbols it was built from. -/
theorem utf8_encode (bytes : List UInt8) : Utf8.encode (encode bytes) = encodeBytes bytes :=
  Utf8.encode_ofList_ascii _ fun b hb => (visible_encodeBytes bytes b hb).1

/-- A text is read as a byte string exactly if it is the text of that byte string. -/
theorem decode_eq_ok_iff (text : String) (bytes : List UInt8) :
    decode text = .ok bytes ↔ text = encode bytes := by
  rw [decode, decodeBytes_eq_ok_iff, ← utf8_encode]
  exact ⟨Utf8.encode_injective text _, congrArg Utf8.encode⟩

theorem decode_encode (bytes : List UInt8) : decode (encode bytes) = .ok bytes :=
  (decode_eq_ok_iff _ bytes).mpr rfl

theorem not_anyBlank_encode (bytes : List UInt8) : Text.anyBlank (encode bytes) = false := by
  rw [Text.anyBlank, encode, String.toList_ofList, List.any_map, List.any_eq_false]
  intro b hb
  rw [Function.comp_apply, (visible_encodeBytes bytes b hb).2]
  exact Bool.false_ne_true

/-- The text of some bytes is more than blanks. -/
theorem not_allBlank_encode (bytes : List UInt8) (h : bytes ≠ []) :
    Text.allBlank (encode bytes) = false := by
  have hany := not_anyBlank_encode bytes
  rw [Text.anyBlank, List.any_eq_false] at hany
  have hlength := length_encodeBytes bytes
  have hpos := List.length_pos_of_ne_nil h
  rcases List.exists_mem_of_length_pos (l := encodeBytes bytes) (by omega) with ⟨b, hb⟩
  have hmem : Char.ofNat b.toNat ∈ (encode bytes).toList := by
    rw [encode, String.toList_ofList]
    exact List.mem_map_of_mem hb
  rw [Text.allBlank, List.all_eq_false]
  exact ⟨_, hmem, hany _ hmem⟩

end Base64

end SamlConformance
