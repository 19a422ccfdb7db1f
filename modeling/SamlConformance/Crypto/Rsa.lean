import SamlConformance.Asn1.KeyInfo
import SamlConformance.Crypto.Modular
import SamlConformance.Crypto.Sha1
import SamlConformance.Crypto.Sha2

/-!
# RSA Signatures

A signature is good if, raised to the public exponent, it is the padded digest of
what was signed. The padded digest names the function it was made with and fills
the whole width of the modulus, so that it is compared and never parsed.

## Main definitions

* `RsaKey`: Modulus and exponent.
* `RsaKey.ofBytes?`: A key of an admissible size.
* `RsaKey.accepts`: The signature is good.
-/

namespace SamlConformance

/-- A digest function as signatures name it. -/
structure NamedDigest where
  /-- The bytes of its registered name. -/
  name : List UInt8
  /-- The function. -/
  digest : List UInt8 → List UInt8

namespace NamedDigest

/-- SHA-1. -/
def sha1 : NamedDigest := ⟨[0x2b, 0x0e, 0x03, 0x02, 0x1a], Sha1.digest⟩

/-- SHA-256. -/
def sha256 : NamedDigest :=
  ⟨[0x60, 0x86, 0x48, 0x01, 0x65, 0x03, 0x04, 0x02, 0x01], Sha2.sha256.digest⟩

/-- SHA-384. -/
def sha384 : NamedDigest :=
  ⟨[0x60, 0x86, 0x48, 0x01, 0x65, 0x03, 0x04, 0x02, 0x02], Sha2.sha384.digest⟩

/-- SHA-512. -/
def sha512 : NamedDigest :=
  ⟨[0x60, 0x86, 0x48, 0x01, 0x65, 0x03, 0x04, 0x02, 0x03], Sha2.sha512.digest⟩

/-- The digest of a message with the name of the function. -/
def labelled (d : NamedDigest) (message : List UInt8) : List UInt8 :=
  Der.encode Der.sequence
    (Der.encode Der.sequence (Der.encode Der.objectId d.name ++ Der.encode Der.null []) ++
      Der.encode Der.octetString (d.digest message))

end NamedDigest

/-- A public key. -/
structure RsaKey where
  /-- The modulus. -/
  modulus : Nat
  /-- The public exponent. -/
  exponent : Nat
deriving Repr, DecidableEq

namespace RsaKey

/-- How many bits the modulus has. -/
def bits (k : RsaKey) : Nat := k.modulus.log2 + 1

/-- A key that is neither too short nor too long, with an exponent in use. -/
def isAdmissible (k : RsaKey) : Bool :=
  2048 ≤ k.bits && k.bits ≤ 8192 && k.modulus % 2 == 1 &&
    3 ≤ k.exponent && k.exponent < 0x200000000 && k.exponent % 2 == 1

/-- The registered names of the algorithm, the one in use and an older one. -/
def algorithms : List (List UInt8) :=
  [[0x2a, 0x86, 0x48, 0x86, 0xf7, 0x0d, 0x01, 0x01, 0x01], [0x55, 0x08, 0x01, 0x01]]

/-- Modulus and exponent behind the name of the algorithm, whatever its parameters. -/
def named? (bytes : List UInt8) : Option (Nat × Nat) := do
  let info ← KeyInfo.ofBytes? bytes
  match ← Der.pair? info.key with
  | (pair, []) => if info.algorithm ∈ algorithms then some pair else none
  | _ => none

/-- A key of an admissible size, with or without the name of the algorithm. -/
def ofBytes? (bytes : List UInt8) : Option RsaKey := do
  let (modulus, exponent) ←
    match Der.pair? bytes with
    | some (pair, _) => some pair
    | none => named? bytes
  let k : RsaKey := ⟨modulus, exponent⟩
  if k.isAdmissible then some k else none

/-- The labelled digest of a message, padded to a width. -/
def padded (d : NamedDigest) (width : Nat) (message : List UInt8) : List UInt8 :=
  let tail := d.labelled message
  [0x00, 0x01] ++ List.replicate (width - 3 - tail.length) 0xff ++ 0x00 :: tail

/-- The signature is good. -/
def accepts (k : RsaKey) (d : NamedDigest) (message signature : List UInt8) : Bool :=
  let width := BigEndian.size k.modulus
  let s := BigEndian.value signature
  signature.length == width && s < k.modulus &&
    BigEndian.bytes width (Modular.power k.modulus s k.exponent) == padded d width message

end RsaKey

end SamlConformance
