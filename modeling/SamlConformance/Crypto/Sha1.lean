import SamlConformance.Crypto.BigEndian

/-!
# SHA-1

The digest that signatures of old still use. A message is padded to whole blocks
of sixteen words of 32 bits; a block is stretched to eighty words by a recurrence
over the last sixteen.

## Main definitions

* `Sha1.digest`: The digest of a message.
-/

namespace SamlConformance

namespace Sha1

/-- The words of the digest. -/
abbrev Word := BitVec 32

/-- Five words. -/
structure State where
  /-- The first word. -/
  a : Word
  /-- The second word. -/
  b : Word
  /-- The third word. -/
  c : Word
  /-- The fourth word. -/
  d : Word
  /-- The fifth word. -/
  e : Word

/-- The state at the start. -/
def start : State :=
  ⟨0x67452301, 0xefcdab89, 0x98badcfe, 0x10325476, 0xc3d2e1f0⟩

namespace State

/-- The sums of the words. -/
def add (s t : State) : State :=
  ⟨s.a + t.a, s.b + t.b, s.c + t.c, s.d + t.d, s.e + t.e⟩

/-- What a round mixes of the three middle words, with its constant. -/
def mixed (s : State) (t : Nat) : Word :=
  if t < 20 then ((s.b &&& s.c) ||| (~~~s.b &&& s.d)) + 0x5a827999
  else if t < 40 then (s.b ^^^ s.c ^^^ s.d) + 0x6ed9eba1
  else if t < 60 then ((s.b &&& s.c) ||| (s.b &&& s.d) ||| (s.c &&& s.d)) + 0x8f1bbcdc
  else (s.b ^^^ s.c ^^^ s.d) + 0xca62c1d6

/-- Round `t` with a word of the message. -/
def round (s : State) (t : Nat) (w : Word) : State :=
  ⟨s.a.rotateLeft 5 + s.mixed t + s.e + w, s.a, s.b.rotateLeft 30, s.c, s.d⟩

/-- The word that follows sixteen. -/
def nextWord (ws : List Word) : Word :=
  (ws.getD 13 0 ^^^ ws.getD 8 0 ^^^ ws.getD 2 0 ^^^ ws.getD 0 0).rotateLeft 1

/-- The last `n` of the eighty rounds, from the last sixteen words. -/
def rounds (s : State) (ws : List Word) : Nat → State
  | 0 => s
  | n + 1 => (s.round (79 - n) (ws.getD 0 0)).rounds (ws.drop 1 ++ [nextWord ws]) n

/-- Takes in the sixteen words of a block. -/
def absorb (s : State) (block : List Word) : State :=
  s.add (s.rounds block 80)

end State

/-- The message, a mark, as many zeros as fill a block, and the length in bits. -/
def padded (message : List UInt8) : List UInt8 :=
  let zeros := (64 - (message.length + 9) % 64) % 64
  message ++ 0x80 :: List.replicate zeros 0 ++ BigEndian.bytes 8 (8 * message.length)

/-- The words of whole words of bytes, `n` of them. -/
def words : Nat → List UInt8 → List Word
  | 0, _ => []
  | n + 1, bytes => BitVec.ofNat _ (BigEndian.value (bytes.take 4)) :: words n (bytes.drop 4)

/-- Takes in `n` blocks. -/
def absorbAll (s : State) : Nat → List UInt8 → State
  | 0, _ => s
  | n + 1, bytes => absorbAll (s.absorb (words 16 bytes)) n (bytes.drop 64)

/-- The digest of a message. -/
def digest (message : List UInt8) : List UInt8 :=
  let bytes := padded message
  let s := absorbAll start (bytes.length / 64) bytes
  [s.a, s.b, s.c, s.d, s.e].flatMap fun w => BigEndian.bytes 4 w.toNat

end Sha1

end SamlConformance
