/-!
# UTF-8

A byte string either is the encoding of a text or it is not, and the string
type itself carries that fact. What has to be added is where an invalid byte
string goes wrong: the length of the longest valid beginning, and how many
bytes make up the offending sequence, or that the bytes stop in its middle.

## Main definitions

* `Utf8.Fault`: Where a byte string stops being UTF-8.
* `Utf8.decode`: The text a byte string encodes, or its fault.
* `Utf8.encode`: The bytes of a text.
* `Utf8.width`: Their number.

## Theorems

* `Utf8.decode_encode`: Decoding inverts encoding.
-/

namespace SamlConformance

namespace Utf8

/-- The first invalid sequence of a byte string. -/
structure Fault where
  /-- Length of the longest valid beginning. -/
  validUpTo : Nat
  /-- Bytes of the invalid sequence; none if the bytes end inside it. -/
  badBytes : Option Nat
deriving Repr, DecidableEq

/-- The wording of a fault. -/
def Fault.message (f : Fault) : String :=
  match f.badBytes with
  | some n => s!"invalid utf-8 sequence of {n} bytes from index {f.validUpTo}"
  | none => s!"incomplete utf-8 byte sequence from index {f.validUpTo}"

/-- Bytes that may follow the first byte of a sequence, one interval for each
position. The second byte is restricted further where the general interval
would admit overlong forms, surrogates or values past the last code point. -/
def tailIntervals (b : UInt8) : Option (List (UInt8 × UInt8)) :=
  let any : UInt8 × UInt8 := (0x80, 0xBF)
  if b < 0x80 then some []
  else if b < 0xC2 then none
  else if b < 0xE0 then some [any]
  else if b = 0xE0 then some [(0xA0, 0xBF), any]
  else if b = 0xED then some [(0x80, 0x9F), any]
  else if b < 0xF0 then some [any, any]
  else if b = 0xF0 then some [(0x90, 0xBF), any, any]
  else if b < 0xF4 then some [any, any, any]
  else if b = 0xF4 then some [(0x80, 0x8F), any, any]
  else none

/-- Reads the tail of one sequence. `seen` counts the bytes read so far. -/
def readTail (seen : Nat) : List (UInt8 × UInt8) → List UInt8 → Except (Option Nat) (List UInt8)
  | [], rest => .ok rest
  | _ :: _, [] => .error none
  | (lo, hi) :: more, b :: rest =>
    if lo ≤ b ∧ b ≤ hi then readTail (seen + 1) more rest else .error (some seen)

/-- The first fault at or after `pos`, by at most `fuel` sequences. -/
def faultFrom (pos : Nat) : (fuel : Nat) → List UInt8 → Fault
  | 0, _ => ⟨pos, none⟩
  | _ + 1, [] => ⟨pos, none⟩
  | fuel + 1, b :: rest =>
    match tailIntervals b with
    | none => ⟨pos, some 1⟩
    | some tail =>
      match readTail 1 tail rest with
      | .error bad => ⟨pos, bad⟩
      | .ok rest' => faultFrom (pos + 1 + tail.length) fuel rest'

/-- The bytes of a text. -/
def encode (s : String) : List UInt8 :=
  s.toByteArray.data.toList

/-- How many bytes encode a text. -/
def width (cs : List Char) : Nat :=
  cs.foldl (fun n c => n + c.utf8Size) 0

/-- The text whose encoding is `bytes`, or where they go wrong. -/
def decode (bytes : List UInt8) : Except Fault String :=
  let b : ByteArray := ⟨bytes.toArray⟩
  if h : b.IsValidUTF8 then .ok (String.ofByteArray b h)
  else .error (faultFrom 0 bytes.length bytes)

theorem decode_encode (s : String) : decode (encode s) = .ok s := by
  have hb : (⟨(encode s).toArray⟩ : ByteArray) = s.toByteArray := by
    simp [encode]
  have hv : (⟨(encode s).toArray⟩ : ByteArray).IsValidUTF8 := hb ▸ s.isValidUTF8
  have hs : String.ofByteArray _ hv = s := String.toByteArray_inj.1 hb
  simp only [decode, hv, dite_true, hs]

end Utf8

end SamlConformance
