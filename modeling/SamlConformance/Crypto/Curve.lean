import SamlConformance.Asn1.KeyInfo
import SamlConformance.Crypto.Modular

/-!
# Elliptic Curves

The curves of prime order over prime fields that are in use for signatures. All of
them have the coefficient -3, so that a curve is given by its other coefficient.

## Main definitions

* `Curve`: The parameters of a curve.
* `Curve.add`, `Curve.combine`: Sums, and sums of multiples.
* `Curve.point?`: Reads a point.
* `Curve.key?`: Reads a key.
* `Curve.accepts`: A signature is good.
-/

namespace SamlConformance

/-- The curve of `y² = x³ - 3x + b`, with a point that generates it. -/
structure Curve where
  /-- The size of the field. -/
  p : Nat
  /-- The coefficient. -/
  b : Nat
  /-- The first coordinate of the generator. -/
  gx : Nat
  /-- The second coordinate of the generator. -/
  gy : Nat
  /-- How many points there are. -/
  n : Nat
  /-- The bytes of the registered name. -/
  name : List UInt8

namespace Curve

/-- The curve over 256 bits. -/
def p256 : Curve where
  p := Nat.pow 2 256 - Nat.pow 2 224 + Nat.pow 2 192 + Nat.pow 2 96 - 1
  b :=
    0x5ac635d8aa3a93e7b3ebbd55769886bc651d06b0cc53b0f63bce3c3e27d2604b
  gx :=
    0x6b17d1f2e12c4247f8bce6e563a440f277037d812deb33a0f4a13945d898c296
  gy :=
    0x4fe342e2fe1a7f9b8ee7eb4a7c0f9e162bce33576b315ececbb6406837bf51f5
  n :=
    0xffffffff00000000ffffffffffffffffbce6faada7179e84f3b9cac2fc632551
  name := [0x2a, 0x86, 0x48, 0xce, 0x3d, 0x03, 0x01, 0x07]

/-- The curve over 384 bits. -/
def p384 : Curve where
  p := Nat.pow 2 384 - Nat.pow 2 128 - Nat.pow 2 96 + Nat.pow 2 32 - 1
  b :=
    0xb3312fa7e23ee7e4988e056be3f82d19181d9c6efe814112 * Nat.pow 2 192 +
      0x0314088f5013875ac656398d8a2ed19d2a85c8edd3ec2aef
  gx :=
    0xaa87ca22be8b05378eb1c71ef320ad746e1d3b628ba79b98 * Nat.pow 2 192 +
      0x59f741e082542a385502f25dbf55296c3a545e3872760ab7
  gy :=
    0x3617de4a96262c6f5d9e98bf9292dc29f8f41dbd289a147c * Nat.pow 2 192 +
      0xe9da3113b5f0b8c00a60b1ce1d7e819d7a431d7c90ea0e5f
  n :=
    0xffffffffffffffffffffffffffffffffffffffffffffffff * Nat.pow 2 192 +
      0xc7634d81f4372ddf581a0db248b0a77aecec196accc52973
  name := [0x2b, 0x81, 0x04, 0x00, 0x22]

/-- The curve over 521 bits. -/
def p521 : Curve where
  p := Nat.pow 2 521 - 1
  b :=
    0x0051953eb9618e1c9a1f929a21a0b68540eea2da725b99b315f3b8b489918ef109 * Nat.pow 2 264 +
      0xe156193951ec7e937b1652c0bd3bb1bf073573df883d2c34f1ef451fd46b503f00
  gx :=
    0x00c6858e06b70404e9cd9e3ecb662395b4429c648139053fb521f828af606b4d3d * Nat.pow 2 264 +
      0xbaa14b5e77efe75928fe1dc127a2ffa8de3348b3c1856a429bf97e7e31c2e5bd66
  gy :=
    0x011839296a789a3bc0045c8a5fb42c7d1bd998f54449579b446817afbd17273e66 * Nat.pow 2 264 +
      0x2c97ee72995ef42640c550b9013fad0761353c7086a272c24088be94769fd16650
  n :=
    0x1ffffffffffffffffffffffffffffffffffffffffffffffffffffffffffffffff * Nat.pow 2 264 +
      0xfa51868783bf2f966b7fcc0148f709a5d03bb5c9b8899c47aebb6fb71e91386409
  name := [0x2b, 0x81, 0x04, 0x00, 0x23]

/-- A point: two coordinates, or none at infinity. -/
abbrev Point := Option (Nat × Nat)

variable (c : Curve)

/-- The generator. -/
def generator : Point := some (c.gx, c.gy)

/-- The difference of two numbers in the field. -/
def sub (a b : Nat) : Nat := (a + (c.p - b % c.p)) % c.p

/-- The quotient of two numbers in the field. -/
def div (a b : Nat) : Nat := a * Modular.inverse c.p (b % c.p) % c.p

/-- The right side of the equation of the curve. -/
def cubic (x : Nat) : Nat :=
  c.sub (x * x % c.p * x + c.b) (3 * x)

/-- Two numbers are the coordinates of a point. -/
def contains (x y : Nat) : Bool :=
  x < c.p && y < c.p && y * y % c.p == c.cubic x

/-- The third point on a line of given slope, mirrored. -/
def along (slope x1 y1 x2 : Nat) : Point :=
  let x3 := c.sub (slope * slope) (x1 + x2)
  some (x3, c.sub (slope * c.sub x1 x3) y1)

/-- The sum of two points. -/
def add : Point → Point → Point
  | none, q => q
  | p, none => p
  | some (x1, y1), some (x2, y2) =>
    if x1 = x2 then
      if (y1 + y2) % c.p = 0 then none
      else c.along (c.div (3 * c.sub (x1 * x1) 1) (2 * y1)) x1 y1 x2
    else c.along (c.div (c.sub y2 y1) (c.sub x2 x1)) x1 y1 x2

/-- The multiple of a point by a single bit. -/
def bitOf (n : Nat) (q : Point) : Point :=
  if n % 2 = 1 then q else none

/-- The sum of a multiple of one point and a multiple of another. -/
def combine (u : Nat) (p : Point) (v : Nat) (q : Point) : Point :=
  if u = 0 ∧ v = 0 then none
  else
    let half := combine (u / 2) p (v / 2) q
    c.add (c.add (c.add half half) (bitOf u p)) (bitOf v q)
termination_by u + v
decreasing_by omega

/-- How many bytes a coordinate has. -/
def width : Nat := BigEndian.size c.p

/-- The point with a first coordinate and the parity of the second. -/
def ofParity? (x parity : Nat) : Option (Nat × Nat) :=
  let root := Modular.power c.p (c.cubic x) ((c.p + 1) / 4)
  let y := if root % 2 = parity then root else c.sub 0 root
  if c.contains x y && y % 2 == parity then some (x, y) else none

/-- The point that bytes write, with both coordinates, with the first one and the
parity of the second, or with all of these. -/
def point? : List UInt8 → Option (Nat × Nat)
  | [] => none
  | form :: bs =>
    let x := BigEndian.value (bs.take c.width)
    if (form = 4 ∨ form = 6 ∨ form = 7) ∧ bs.length = 2 * c.width then
      let y := BigEndian.value (bs.drop c.width)
      if c.contains x y ∧ (form = 4 ∨ y % 2 = form.toNat - 6) then some (x, y) else none
    else if (form = 2 ∨ form = 3) ∧ bs.length = c.width ∧ x < c.p then
      c.ofParity? x (form.toNat - 2)
    else none

/-- The registered name of fields of prime size. -/
def primeField : List UInt8 := [0x2a, 0x86, 0x48, 0xce, 0x3d, 0x01, 0x01]

/-- The start of a description: its version, and the field. -/
def fieldText : List UInt8 :=
  Der.encodeNatural 1 ++
    Der.encode Der.sequence (Der.encode Der.objectId primeField ++ Der.encodeNatural c.p)

/-- A sequence of both coefficients, and perhaps of the bits they were made from. -/
def areCoefficients (bytes : List UInt8) : Bool :=
  let read : Option Bool := do
    let (a, rest) ← Der.strict? Der.octetString bytes
    let (b, rest) ← Der.strict? Der.octetString rest
    let isAll := rest.isEmpty || (Der.strict? Der.bitString rest).map Prod.snd == some []
    return isAll && BigEndian.value a == c.p - 3 && BigEndian.value b == c.b
  read.getD false

/-- The generator with both coordinates, of any width. -/
def isGenerator : List UInt8 → Bool
  | 4 :: bs =>
    let half := bs.length / 2
    bs.length % 2 == 0 && BigEndian.value (bs.take half) == c.gx &&
      BigEndian.value (bs.drop half) == c.gy
  | _ => false

/-- How many points there are, and perhaps that the generator reaches all of them. -/
def isOrder (bytes : List UInt8) : Bool :=
  let order := Der.encodeNatural c.n
  bytes == order || bytes == order ++ Der.encodeNatural 1

/-- Parameters that describe the curve. -/
def isDescribedBy (parameters : List UInt8) : Bool :=
  let read : Option Bool := do
    let (content, after) ← Der.strict? Der.sequence parameters
    let start := c.fieldText
    let (coefficients, rest) ← Der.strict? Der.sequence (content.drop start.length)
    let (generator, rest) ← Der.strict? Der.octetString rest
    return after.isEmpty && start.isPrefixOf content && c.areCoefficients coefficients &&
      c.isGenerator generator && c.isOrder rest
  read.getD false

/-- Parameters that name the curve or describe it. -/
def isOf (parameters : List UInt8) : Bool :=
  parameters == Der.encode Der.objectId c.name || c.isDescribedBy parameters

/-- The registered name of keys that are points. -/
def keyAlgorithm : List UInt8 := [0x2a, 0x86, 0x48, 0xce, 0x3d, 0x02, 0x01]

/-- The point of a key, with or without the name of the algorithm and the curve. -/
def key? (bytes : List UInt8) : Option (Nat × Nat) :=
  match KeyInfo.ofBytes? bytes with
  | some info =>
    if info.algorithm = keyAlgorithm ∧ c.isOf info.parameters then c.point? info.key else none
  | none => c.point? bytes

/-- The number that counts of a digest: as many bits as the order of the curve
has, from the left. -/
def digestValue (digest : List UInt8) : Nat :=
  BigEndian.value digest >>> (8 * digest.length - (c.n.log2 + 1))

/-- The signature of two numbers on a digest is good for a key. -/
def agrees (key : Nat × Nat) (digest : List UInt8) (r s : Nat) : Bool :=
  let w := Modular.inverse c.n s
  let u := c.digestValue digest * w % c.n
  let v := r * w % c.n
  0 < r && r < c.n && 0 < s && s < c.n &&
    match c.combine u c.generator v (some key) with
    | none => false
    | some (x, _) => x % c.n == r

/-- A signature in bytes on a digest is good for a key in bytes. -/
def accepts (key digest signature : List UInt8) : Bool :=
  match c.key? key, Der.pair? signature with
  | some q, some ((r, s), []) => c.agrees q digest r s
  | _, _ => false

end Curve

end SamlConformance
