/-!
# Numbers as Bytes

The most significant byte first, as all formats of keys and signatures have it.

## Main definitions

* `BigEndian.value`: The number that bytes write.
* `BigEndian.bytes`: A number in a given number of bytes.
* `BigEndian.shortest`: A number in as few bytes as it needs.
-/

namespace SamlConformance

namespace BigEndian

/-- The number that bytes write. -/
def value (bytes : List UInt8) : Nat :=
  bytes.foldl (fun n b => n * 256 + b.toNat) 0

/-- The last `width` bytes of a number, in front of others. -/
def bytesOnto (n : Nat) : Nat → List UInt8 → List UInt8
  | 0, acc => acc
  | width + 1, acc => bytesOnto (n / 256) width (UInt8.ofNat (n % 256) :: acc)

/-- A number in `width` bytes. -/
def bytes (width n : Nat) : List UInt8 :=
  bytesOnto n width []

/-- How many bytes a number needs. -/
def size (n : Nat) : Nat :=
  if n = 0 then 0 else n.log2 / 8 + 1

/-- A number in as few bytes as it needs; none for zero. -/
def shortest (n : Nat) : List UInt8 :=
  bytes (size n) n

end BigEndian

end SamlConformance
