import Mathlib.Data.List.Forall2
import SamlConformance.Proofs.Coding.Prefix

/-!
# Spellings of a Text

Whether a character is escaped in a query is for the writer to decide, as long as it would not
be taken for something else, and so is whether the digits of an escape are capital. On its way
the text may be broken into lines or padded, and what was put in between may itself be escaped
or not. So there are many texts that mean the same, and the writer's choices can be made
character by character.

The reader resolves bytes and not characters. A character outside of ASCII is escaped as more
than one byte, and only when all of them are resolved is there a character again. That the
escapes of one character are not mixed up with what stands behind them is what has to be shown,
and it is shown for any bytes behind. A percent sign that is written as it is has no such law:
digits behind it would make an escape of it.

## Main definitions

* `Percent.EscapeOf`: Three characters that stand for a byte.
* `Percent.Spells`: What may be written for a character.
* `Percent.Spelled`: What may be written for a text.
* `Merged`: Two lists are put together, and each stays in order.

## Theorems

* `Percent.unescape_escapeOf`, `Percent.unescape_spells`: What is resolved first, whatever
  follows.
* `Percent.decode_spelled`: All spellings of a text stand for the text.
* `Percent.decode_eq_empty_iff`: Only an empty payload stands for the empty text.
* `Merged.filter_eq`, `Merged.mem_iff`: Two lists that were put together can be told apart.
-/

namespace SamlConformance

namespace Text

/-- Hexadecimal digits are in ASCII. -/
theorem ascii_of_hexValue? (c : Char) (n : Nat) (h : hexValue? c = some n) : c.toNat < 128 := by
  have hle : ∀ d : Char, c ≤ d → c.toNat ≤ d.toNat := fun d hd => hd
  unfold hexValue? at h
  split at h
  · rename_i hdigit
    exact Nat.lt_of_le_of_lt (hle '9' hdigit.2) (by decide)
  split at h
  · rename_i hsmall
    exact Nat.lt_of_le_of_lt (hle 'f' hsmall.2) (by decide)
  split at h
  · rename_i hcapital
    exact Nat.lt_of_le_of_lt (hle 'F' hcapital.2) (by decide)
  · exact absurd h (by simp only [reduceCtorEq, not_false_eq_true])

end Text

namespace Percent

/-- A percent sign and the two digits of a byte, each of them capital or small. -/
def EscapeOf (b : UInt8) (piece : List Char) : Prop :=
  ∃ x y high low, piece = ['%', x, y] ∧ Text.hexValue? x = some high ∧
    Text.hexValue? y = some low ∧ high * 16 + low = b.toNat

/-- What may be written for a character: the character itself, or escapes of all its bytes. -/
def Spells (c : Char) (piece : List Char) : Prop :=
  piece = [c] ∨
    ∃ pieces, List.Forall₂ EscapeOf (String.utf8EncodeChar c) pieces ∧ piece = pieces.flatten

/-- What may be written for a text, one character after the other. -/
def Spelled (text payload : String) : Prop :=
  ∃ pieces, List.Forall₂ Spells text.toList pieces ∧ payload.toList = pieces.flatten

/-- A digit is read as one byte. -/
theorem digitValue?_of_hexValue? (c : Char) (n : Nat) (h : Text.hexValue? c = some n) :
    String.utf8EncodeChar c = [UInt8.ofNat c.toNat] ∧
      digitValue? (UInt8.ofNat c.toNat) = some n := by
  have hascii := Text.ascii_of_hexValue? c n h
  have hnat : (UInt8.ofNat c.toNat).toNat = c.toNat := by
    rw [UInt8.toNat_ofNat']
    omega
  refine ⟨Utf8.utf8EncodeChar_low c hascii, ?_⟩
  rw [digitValue?, hnat, Char.ofNat_toNat, h]

/-- An escape is resolved to its byte. -/
theorem unescape_escapeOf (b : UInt8) (piece : List Char) (rest : List UInt8)
    (h : EscapeOf b piece) :
    unescape (piece.flatMap String.utf8EncodeChar ++ rest) = b :: unescape rest := by
  rcases h with ⟨x, y, high, low, rfl, hx, hy, hb⟩
  rcases digitValue?_of_hexValue? x high hx with ⟨hxbyte, hxvalue⟩
  rcases digitValue?_of_hexValue? y low hy with ⟨hybyte, hyvalue⟩
  have hsign : String.utf8EncodeChar '%' = [sign] := rfl
  rw [List.flatMap_cons, List.flatMap_cons, List.flatMap_singleton, hsign, hxbyte, hybyte]
  simp only [List.cons_append, List.nil_append]
  rw [unescape, beq_self_eq_true, hxvalue, hyvalue]
  simp only [hb, UInt8.ofNat_toNat]

/-- Escapes are resolved one by one. -/
theorem unescape_escapes (bytes : List UInt8) (pieces : List (List Char)) (rest : List UInt8)
    (h : List.Forall₂ EscapeOf bytes pieces) :
    unescape (pieces.flatten.flatMap String.utf8EncodeChar ++ rest) = bytes ++ unescape rest := by
  induction h with
  | nil => rfl
  | cons hb _ ih =>
      rw [List.flatten_cons, List.flatMap_append, List.append_assoc, unescape_escapeOf _ _ _ hb, ih,
        List.cons_append]

/-- Without percent signs there is nothing to be resolved, whatever follows. -/
theorem unescape_append_of_not_mem (bytes rest : List UInt8) (h : sign ∉ bytes) :
    unescape (bytes ++ rest) = bytes ++ unescape rest := by
  induction bytes with
  | nil => rfl
  | cons b bytes ih =>
      rw [List.cons_append, unescape_cons b _ fun heq => h (heq ▸ List.mem_cons_self),
        ih fun hmem => h (List.mem_cons_of_mem b hmem), List.cons_append]

/-- What is written for a character is resolved to its bytes. -/
theorem unescape_spells (c : Char) (piece : List Char) (rest : List UInt8) (hc : c ≠ '%')
    (h : Spells c piece) :
    unescape (piece.flatMap String.utf8EncodeChar ++ rest) =
      String.utf8EncodeChar c ++ unescape rest := by
  rcases h with rfl | ⟨pieces, hpieces, rfl⟩
  · have hsign : sign ∉ String.utf8EncodeChar c := fun hmem =>
      hc (Utf8.ofNat_of_mem_utf8EncodeChar c sign (by decide) hmem).symm
    rw [List.flatMap_singleton, unescape_append_of_not_mem _ rest hsign]
  · exact unescape_escapes _ pieces rest hpieces

/-- The characters of a text are resolved one by one, each with those behind it as the rest. -/
theorem unescape_pieces (cs : List Char) (pieces : List (List Char)) (hcs : '%' ∉ cs)
    (h : List.Forall₂ Spells cs pieces) :
    unescape (pieces.flatten.flatMap String.utf8EncodeChar) =
      cs.flatMap String.utf8EncodeChar := by
  induction h with
  | nil => exact unescape_short [] (by decide)
  | @cons c piece cs pieces hc _ ih =>
      have hne : c ≠ '%' := fun heq => hcs (heq ▸ List.mem_cons_self)
      rw [List.flatten_cons, List.flatMap_append, unescape_spells c piece _ hne hc,
        ih fun hmem => hcs (List.mem_cons_of_mem c hmem), List.flatMap_cons]

/-- However a text is spelled, the payload stands for the text, if this has no percent signs. -/
theorem decode_spelled (text payload : String) (htext : '%' ∉ text.toList)
    (h : Spelled text payload) : decode payload = .ok text := by
  rcases h with ⟨pieces, hpieces, hpayload⟩
  rw [decode, Utf8.encode_eq_flatMap, hpayload, unescape_pieces _ pieces htext hpieces,
    ← Utf8.encode_eq_flatMap, Utf8.decode_encode]

/-- A text may be written as it is. -/
theorem spelled_self (text : String) : Spelled text text := by
  refine ⟨text.toList.map ([·]), ?_, ?_⟩
  · rw [List.forall₂_map_right_iff]
    exact List.forall₂_same.mpr fun c _ => Or.inl rfl
  · rw [← List.flatMap_def, List.flatMap_singleton']

/-- Resolving leaves nothing of nothing only. -/
theorem eq_nil_of_unescape (bytes : List UInt8) (h : unescape bytes = []) : bytes = [] := by
  match bytes with
  | [] => rfl
  | [a] => exact absurd h (by rw [unescape_short [a] (by simp)]; exact List.cons_ne_nil a [])
  | [a, x] => exact absurd h (by rw [unescape_short [a, x] (by simp)]; exact List.cons_ne_nil a [x])
  | a :: x :: y :: more =>
      rw [unescape] at h
      split at h
      · exact absurd h (List.cons_ne_nil _ _)
      · exact absurd h (List.cons_ne_nil _ _)

/-- The empty payload is the only one that stands for the empty text. -/
theorem decode_eq_empty_iff (payload : String) : decode payload = .ok "" ↔ payload = "" := by
  constructor
  · intro h
    have hbytes : unescape (Utf8.encode payload) = Utf8.encode "" :=
      (Utf8.decode_eq_ok_iff _ _).mp h
    exact Utf8.encode_injective payload "" (eq_nil_of_unescape _ hbytes)
  · rintro rfl
    exact decode_base64 []

end Percent

/-- The third list is the first two put together, where the elements of each stay in order. -/
inductive Merged {α : Type} : List α → List α → List α → Prop
  /-- There is nothing to put together. -/
  | nil : Merged [] [] []
  /-- The next element is one of the first list. -/
  | first (x : α) {xs ys zs : List α} : Merged xs ys zs → Merged (x :: xs) ys (x :: zs)
  /-- The next element is one of the second list. -/
  | second (y : α) {xs ys zs : List α} : Merged xs ys zs → Merged xs (y :: ys) (y :: zs)

namespace Merged

variable {α : Type} {xs ys zs : List α}

theorem mem_iff (h : Merged xs ys zs) (z : α) : z ∈ zs ↔ z ∈ xs ∨ z ∈ ys := by
  induction h with
  | nil => exact (or_self_iff).symm
  | first x _ ih => rw [List.mem_cons, List.mem_cons, ih, or_assoc]
  | second y _ ih => rw [List.mem_cons, List.mem_cons, ih, or_left_comm]

/-- A test that tells the elements of the two lists apart gives the first one back. -/
theorem filter_eq (h : Merged xs ys zs) (p : α → Bool) (hxs : ∀ x ∈ xs, p x = true)
    (hys : ∀ y ∈ ys, p y = false) : zs.filter p = xs := by
  induction h with
  | nil => rfl
  | first x _ ih =>
      rw [List.filter_cons_of_pos (hxs x List.mem_cons_self),
        ih (fun x' hx => hxs x' (List.mem_cons_of_mem x hx)) hys]
  | second y _ ih =>
      rw [List.filter_cons_of_neg (Bool.eq_false_iff.mp (hys y List.mem_cons_self)),
        ih hxs fun y' hy => hys y' (List.mem_cons_of_mem y hy)]

/-- A list is what passes a test put together with what does not. -/
theorem of_filter (p : α → Bool) (zs : List α) :
    Merged (zs.filter p) (zs.filter fun z => !p z) zs := by
  induction zs with
  | nil => exact .nil
  | cons z zs ih =>
      by_cases hz : p z = true
      · rw [List.filter_cons_of_pos hz, List.filter_cons_of_neg (by rw [hz]; decide)]
        exact .first z ih
      · rw [List.filter_cons_of_neg hz,
          List.filter_cons_of_pos (by rw [Bool.eq_false_iff.mpr hz]; rfl)]
        exact .second z ih

end Merged

end SamlConformance
