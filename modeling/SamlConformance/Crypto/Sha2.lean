import SamlConformance.Crypto.BigEndian

/-!
# The SHA-2 Family

Digests over words of 32 and of 64 bits. The members of the family differ in the
width of words, in the amounts by which words are rotated, in the state they
start from, and in how much of the last state they keep; the computation is the
same, and is written once for all of them.

A message is padded to whole blocks of sixteen words. A block is stretched to one
word for each round by a recurrence over the last sixteen words, of which only
these sixteen are kept.

## Main definitions

* `Sha2`: The parameters of a member.
* `Sha2.digest`: The digest of a message.
* `Sha2.sha256`, `Sha2.sha384`, `Sha2.sha512`: The members.
-/

namespace SamlConformance

/-- The parameters of a member of the family. -/
structure Sha2 where
  /-- The width of words in bits. -/
  width : Nat
  /-- The rotations that mix the first word of the state. -/
  large0 : Nat × Nat × Nat
  /-- The rotations that mix the fifth word of the state. -/
  large1 : Nat × Nat × Nat
  /-- Two rotations and a shift, of the second of sixteen words. -/
  small0 : Nat × Nat × Nat
  /-- Two rotations and a shift, of the fifteenth of sixteen words. -/
  small1 : Nat × Nat × Nat
  /-- One constant for each round. -/
  constants : List Nat
  /-- The eight words of the state at the start. -/
  start : List Nat
  /-- How many bytes of the last state are kept. -/
  kept : Nat

namespace Sha2

/-- The first 64 bits of the fractional parts of the cube roots of the first
eighty primes. -/
def cubeRoots : List Nat :=
  [ 0x428a2f98d728ae22, 0x7137449123ef65cd, 0xb5c0fbcfec4d3b2f, 0xe9b5dba58189dbbc,
    0x3956c25bf348b538, 0x59f111f1b605d019, 0x923f82a4af194f9b, 0xab1c5ed5da6d8118,
    0xd807aa98a3030242, 0x12835b0145706fbe, 0x243185be4ee4b28c, 0x550c7dc3d5ffb4e2,
    0x72be5d74f27b896f, 0x80deb1fe3b1696b1, 0x9bdc06a725c71235, 0xc19bf174cf692694,
    0xe49b69c19ef14ad2, 0xefbe4786384f25e3, 0x0fc19dc68b8cd5b5, 0x240ca1cc77ac9c65,
    0x2de92c6f592b0275, 0x4a7484aa6ea6e483, 0x5cb0a9dcbd41fbd4, 0x76f988da831153b5,
    0x983e5152ee66dfab, 0xa831c66d2db43210, 0xb00327c898fb213f, 0xbf597fc7beef0ee4,
    0xc6e00bf33da88fc2, 0xd5a79147930aa725, 0x06ca6351e003826f, 0x142929670a0e6e70,
    0x27b70a8546d22ffc, 0x2e1b21385c26c926, 0x4d2c6dfc5ac42aed, 0x53380d139d95b3df,
    0x650a73548baf63de, 0x766a0abb3c77b2a8, 0x81c2c92e47edaee6, 0x92722c851482353b,
    0xa2bfe8a14cf10364, 0xa81a664bbc423001, 0xc24b8b70d0f89791, 0xc76c51a30654be30,
    0xd192e819d6ef5218, 0xd69906245565a910, 0xf40e35855771202a, 0x106aa07032bbd1b8,
    0x19a4c116b8d2d0c8, 0x1e376c085141ab53, 0x2748774cdf8eeb99, 0x34b0bcb5e19b48a8,
    0x391c0cb3c5c95a63, 0x4ed8aa4ae3418acb, 0x5b9cca4f7763e373, 0x682e6ff3d6b2b8a3,
    0x748f82ee5defb2fc, 0x78a5636f43172f60, 0x84c87814a1f0ab72, 0x8cc702081a6439ec,
    0x90befffa23631e28, 0xa4506cebde82bde9, 0xbef9a3f7b2c67915, 0xc67178f2e372532b,
    0xca273eceea26619c, 0xd186b8c721c0c207, 0xeada7dd6cde0eb1e, 0xf57d4f7fee6ed178,
    0x06f067aa72176fba, 0x0a637dc5a2c898a6, 0x113f9804bef90dae, 0x1b710b35131c471b,
    0x28db77f523047d84, 0x32caab7b40c72493, 0x3c9ebe0a15c9bebc, 0x431d67c49c100d4c,
    0x4cc5d4becb3e42b6, 0x597f299cfc657e2a, 0x5fcb6fab3ad6faec, 0x6c44198c4a475817 ]

/-- The first 64 bits of the fractional parts of the square roots of the first
sixteen primes. -/
def squareRoots : List Nat :=
  [ 0x6a09e667f3bcc908, 0xbb67ae8584caa73b, 0x3c6ef372fe94f82b, 0xa54ff53a5f1d36f1,
    0x510e527fade682d1, 0x9b05688c2b3e6c1f, 0x1f83d9abfb41bd6b, 0x5be0cd19137e2179,
    0xcbbb9d5dc1059ed8, 0x629a292a367cd507, 0x9159015a3070dd17, 0x152fecd8f70e5939,
    0x67332667ffc00b31, 0x8eb44a8768581511, 0xdb0c2e0d64f98fa7, 0x47b5481dbefa4fa4 ]

/-- The upper half of 64 bits. -/
def upperHalf (n : Nat) : Nat := n / 0x100000000

/-- SHA-256. -/
def sha256 : Sha2 where
  width := 32
  large0 := (2, 13, 22)
  large1 := (6, 11, 25)
  small0 := (7, 18, 3)
  small1 := (17, 19, 10)
  constants := (cubeRoots.take 64).map upperHalf
  start := (squareRoots.take 8).map upperHalf
  kept := 32

/-- SHA-512. -/
def sha512 : Sha2 where
  width := 64
  large0 := (28, 34, 39)
  large1 := (14, 18, 41)
  small0 := (1, 8, 7)
  small1 := (19, 61, 6)
  constants := cubeRoots
  start := squareRoots.take 8
  kept := 64

/-- SHA-384: SHA-512 from another start, and cut. -/
def sha384 : Sha2 :=
  { sha512 with start := squareRoots.drop 8, kept := 48 }

variable (h : Sha2)

/-- The words of the member. -/
abbrev Word := BitVec h.width

/-- The exclusive or of three rotations. -/
def large (r : Nat × Nat × Nat) (x : h.Word) : h.Word :=
  x.rotateRight r.1 ^^^ x.rotateRight r.2.1 ^^^ x.rotateRight r.2.2

/-- The exclusive or of two rotations and a shift. -/
def small (r : Nat × Nat × Nat) (x : h.Word) : h.Word :=
  x.rotateRight r.1 ^^^ x.rotateRight r.2.1 ^^^ x >>> r.2.2

/-- The word that follows sixteen. -/
def nextWord (ws : List h.Word) : h.Word :=
  h.small h.small1 (ws.getD 14 0) + ws.getD 9 0 + h.small h.small0 (ws.getD 1 0) + ws.getD 0 0

/-- Eight words. -/
structure State where
  /-- The first word. -/
  a : h.Word
  /-- The second word. -/
  b : h.Word
  /-- The third word. -/
  c : h.Word
  /-- The fourth word. -/
  d : h.Word
  /-- The fifth word. -/
  e : h.Word
  /-- The sixth word. -/
  f : h.Word
  /-- The seventh word. -/
  g : h.Word
  /-- The eighth word. -/
  h : h.Word

variable {h}

namespace State

/-- The state of eight words in a list. -/
def ofList (ws : List h.Word) : h.State :=
  ⟨ws.getD 0 0, ws.getD 1 0, ws.getD 2 0, ws.getD 3 0, ws.getD 4 0, ws.getD 5 0, ws.getD 6 0,
    ws.getD 7 0⟩

/-- The words in order. -/
def toList (s : h.State) : List h.Word :=
  [s.a, s.b, s.c, s.d, s.e, s.f, s.g, s.h]

/-- The sums of the words. -/
def add (s t : h.State) : h.State :=
  ⟨s.a + t.a, s.b + t.b, s.c + t.c, s.d + t.d, s.e + t.e, s.f + t.f, s.g + t.g, s.h + t.h⟩

/-- One round with a constant and a word of the message. -/
def round (s : h.State) (k w : h.Word) : h.State :=
  let chosen := (s.e &&& s.f) ^^^ (~~~s.e &&& s.g)
  let majority := (s.a &&& s.b) ^^^ (s.a &&& s.c) ^^^ (s.b &&& s.c)
  let t1 := s.h + h.large h.large1 s.e + chosen + k + w
  let t2 := h.large h.large0 s.a + majority
  ⟨t1 + t2, s.a, s.b, s.c, s.d + t1, s.e, s.f, s.g⟩

/-- The rounds with the constants that are left, from the last sixteen words. -/
def rounds (s : h.State) (ws : List h.Word) : List Nat → h.State
  | [] => s
  | k :: ks =>
    (s.round (BitVec.ofNat _ k) (ws.getD 0 0)).rounds (ws.drop 1 ++ [h.nextWord ws]) ks

/-- Takes in the sixteen words of a block. -/
def absorb (s : h.State) (block : List h.Word) : h.State :=
  s.add (s.rounds block h.constants)

end State

variable (h)

/-- How many bytes a word has. -/
def wordBytes : Nat := h.width / 8

/-- How many bytes a block has. -/
def blockBytes : Nat := 16 * h.wordBytes

/-- The message, a mark, as many zeros as fill a block, and the length in bits. -/
def padded (message : List UInt8) : List UInt8 :=
  let tail := 1 + 2 * h.wordBytes
  let used := (message.length + tail) % h.blockBytes
  let zeros := (h.blockBytes - used) % h.blockBytes
  message ++ 0x80 :: List.replicate zeros 0 ++
    BigEndian.bytes (2 * h.wordBytes) (8 * message.length)

/-- The words of whole words of bytes, `n` of them. -/
def words : Nat → List UInt8 → List h.Word
  | 0, _ => []
  | n + 1, bytes =>
    BitVec.ofNat _ (BigEndian.value (bytes.take h.wordBytes)) :: words n (bytes.drop h.wordBytes)

/-- Takes in `n` blocks. -/
def absorbAll (s : h.State) : Nat → List UInt8 → h.State
  | 0, _ => s
  | n + 1, bytes =>
    absorbAll (s.absorb (h.words 16 bytes)) n (bytes.drop h.blockBytes)

/-- The digest of a message. -/
def digest (message : List UInt8) : List UInt8 :=
  let bytes := h.padded message
  let start : h.State := .ofList (h.start.map (BitVec.ofNat _))
  let final := h.absorbAll start (bytes.length / h.blockBytes) bytes
  (final.toList.flatMap fun w => BigEndian.bytes h.wordBytes w.toNat).take h.kept

end Sha2

end SamlConformance
