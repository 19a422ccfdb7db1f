import SamlConformance.Text.Hex

/-!
# Identifiers for Requests

A request is told from all others by an identifier of random bits, in the form of
a universally unique identifier of version 4 without its hyphens. Identifiers in
XML must not begin with a digit, so a low line goes in front.

## Main definitions

* `RequestId.ofBytes`: The identifier that sixteen bytes make.
* `RequestId.generate`: A random identifier.
-/

namespace SamlConformance

namespace RequestId

/-- Bytes marked as random: six bits tell the version and the variant. -/
def marked (bytes : List UInt8) : List UInt8 :=
  bytes.mapIdx fun i b =>
    if i = 6 then (b &&& 0x0F) ||| 0x40 else if i = 8 then (b &&& 0x3F) ||| 0x80 else b

/-- The two small digits of a byte. -/
def digits (b : UInt8) : List Char :=
  (Text.hexPadded 2 b.toNat).map Char.toLower

/-- The identifier that sixteen bytes make. -/
def ofBytes (bytes : List UInt8) : String :=
  String.ofList ('_' :: (marked bytes).flatMap digits)

/-- Random bytes, and the generator after them. -/
def randomBytes {g : Type} [RandomGen g] : Nat → g → List UInt8 × g
  | 0, gen => ([], gen)
  | n + 1, gen =>
    let (b, gen) := randNat gen 0 255
    let (bs, gen) := randomBytes n gen
    (UInt8.ofNat b :: bs, gen)

/-- A random identifier, and the generator after it. -/
def generate {g : Type} [RandomGen g] (gen : g) : String × g :=
  let (bytes, gen) := randomBytes 16 gen
  (ofBytes bytes, gen)

end RequestId

end SamlConformance
