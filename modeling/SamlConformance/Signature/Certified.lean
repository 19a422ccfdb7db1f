import SamlConformance.Asn1.Certificate
import SamlConformance.Crypto.Curve
import SamlConformance.Crypto.Rsa
import SamlConformance.Saml.Vocabulary
import SamlConformance.Signature.Contract

/-!
# Signatures by Certified Keys

The verifier of this toolkit: the key is a certificate, and the algorithm decides
how the bytes of the key in it are read. A key that does not fit the algorithm
accepts no signature.

## Main definitions

* `certifiedVerifier`: The verifier.
-/

namespace SamlConformance

namespace Saml.SignatureAlgorithm

/-- A signature is good for an RSA key. -/
def acceptsRsa (d : NamedDigest) (key signed signature : List UInt8) : Bool :=
  match RsaKey.ofBytes? key with
  | some k => k.accepts d signed signature
  | none => false

/-- A signature is good for the bytes of a key. -/
def accepts (a : SignatureAlgorithm) (key signed signature : List UInt8) : Bool :=
  match a with
  | rsaSha1 => acceptsRsa .sha1 key signed signature
  | rsaSha256 => acceptsRsa .sha256 key signed signature
  | rsaSha384 => acceptsRsa .sha384 key signed signature
  | rsaSha512 => acceptsRsa .sha512 key signed signature
  | ecdsaSha256 => Curve.p256.accepts key (Sha2.sha256.digest signed) signature
  | ecdsaSha384 => Curve.p384.accepts key (Sha2.sha384.digest signed) signature
  | ecdsaSha512 => Curve.p521.accepts key (Sha2.sha512.digest signed) signature

end Saml.SignatureAlgorithm

/-- Checks signatures with the key in a certificate. -/
def certifiedVerifier : Verifier := fun signed uri signature certificate =>
  match Saml.SignatureAlgorithm.ofUri? uri with
  | none => .error (.unsupportedAlgorithm uri)
  | some algorithm =>
    match Certificate.publicKey? certificate with
    | none => .error (.invalidKey "certificate")
    | some key => .ok (algorithm.accepts key signed signature)

end SamlConformance
