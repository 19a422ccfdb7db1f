/-!
# Bits of a Compressed Stream

A compressed stream packs bits into bytes from the least significant bit up. A
reader holds the bits of the byte it is in and the bytes that follow. Reading
either consumes bits or finds that there are none left; `Bits.size` counts what
is left, and never grows.

## Main definitions

* `Bits`: What is left of a stream.
* `Bits.bit`: The next bit.
* `Bits.number`: The next bits as a number, lowest first.
* `Bits.align`: Skips to the next whole byte.
* `Bits.byte`: The next whole byte.

## Theorems

* `Bits.size_bit`: Reading a bit leaves one bit less.
* `Bits.size_number`: Reading `n` bits leaves `n` bits less.
-/

namespace SamlConformance

namespace Deflate

/-- Why a stream cannot be read. -/
inductive Fault where
  /-- The stream ends before its last block does. -/
  | truncated
  /-- The stream breaks a rule of the format. -/
  | corrupt
deriving Repr, DecidableEq

/-- What is left of a stream. -/
structure Bits where
  /-- The unread bits of the current byte. -/
  held : List Bool
  /-- The bytes after it. -/
  bytes : List UInt8
deriving Repr, DecidableEq

namespace Bits

/-- A stream of which nothing was read. -/
def ofBytes (bytes : List UInt8) : Bits := ⟨[], bytes⟩

/-- The number of bits left. -/
def size (b : Bits) : Nat := b.held.length + 8 * b.bytes.length

/-- The bits of a byte but the first. -/
def upperBits (b : UInt8) : List Bool :=
  [1, 2, 3, 4, 5, 6, 7].map b.toNat.testBit

/-- The next bit. -/
def bit : Bits → Except Fault (Bool × Bits)
  | ⟨x :: held, bytes⟩ => .ok (x, ⟨held, bytes⟩)
  | ⟨[], b :: bytes⟩ => .ok (b.toNat.testBit 0, ⟨upperBits b, bytes⟩)
  | ⟨[], []⟩ => .error .truncated

/-- The number in the next `n` bits, lowest bit first. -/
def number : Nat → Bits → Except Fault (Nat × Bits)
  | 0, b => .ok (0, b)
  | n + 1, b =>
    match b.bit with
    | .error f => .error f
    | .ok (x, b') =>
      match number n b' with
      | .error f => .error f
      | .ok (v, b'') => .ok (x.toNat + 2 * v, b'')

/-- The stream from the next whole byte on. -/
def align (b : Bits) : Bits := ⟨[], b.bytes⟩

/-- The next whole byte of an aligned stream. -/
def byte (b : Bits) : Except Fault (UInt8 × Bits) :=
  match b.bytes with
  | x :: bytes => .ok (x, ⟨[], bytes⟩)
  | [] => .error .truncated

theorem size_bit {b b' : Bits} {x : Bool} (h : b.bit = .ok (x, b')) : b'.size + 1 = b.size := by
  match b with
  | ⟨y :: held, bytes⟩ =>
    simp only [bit, Except.ok.injEq, Prod.mk.injEq] at h
    obtain ⟨-, rfl⟩ := h
    simp only [size, List.length_cons]
    omega
  | ⟨[], y :: bytes⟩ =>
    simp only [bit, Except.ok.injEq, Prod.mk.injEq] at h
    obtain ⟨-, rfl⟩ := h
    simp only [size, upperBits, List.length_map, List.length_cons, List.length_nil]
    omega
  | ⟨[], []⟩ => simp [bit] at h

theorem size_number {n v : Nat} {b b' : Bits} (h : number n b = .ok (v, b')) :
    b'.size + n = b.size := by
  induction n generalizing b b' v with
  | zero =>
    simp only [number, Except.ok.injEq, Prod.mk.injEq] at h
    rw [h.2, Nat.add_zero]
  | succ n ih =>
    simp only [number] at h
    split at h
    · exact absurd h (by simp)
    · rename_i x b1 h1
      split at h
      · exact absurd h (by simp)
      · rename_i w b2 h2
        simp only [Except.ok.injEq, Prod.mk.injEq] at h
        obtain ⟨-, rfl⟩ := h
        have := ih h2
        have := size_bit h1
        omega

theorem size_align (b : Bits) : b.align.size ≤ b.size := by
  simp only [align, size, List.length_nil]
  omega

theorem size_byte {b b' : Bits} {x : UInt8} (h : b.byte = .ok (x, b')) : b'.size < b.size := by
  simp only [byte] at h
  split at h
  · rename_i y bytes hb
    simp only [Except.ok.injEq, Prod.mk.injEq] at h
    obtain ⟨-, rfl⟩ := h
    simp only [size, hb, List.length_nil, List.length_cons]
    omega
  · exact absurd h (by simp)

end Bits

end Deflate

end SamlConformance
