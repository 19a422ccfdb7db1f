/-!
# Verifying Signatures

The check of a detached signature is a parameter of the toolkit. A verifier is
given the signed bytes, the URI of the algorithm, the signature and the key; it
answers whether the signature is good, and fails only where the question makes
no sense, because the algorithm is unknown or the key cannot be read.

## Main definitions

* `SignatureError`: Why a verifier cannot answer.
* `Verifier`: A way of checking signatures.
* `SignatureCheck`: A verifier with the key to use.
-/

namespace SamlConformance

/-- Why a verifier cannot answer. -/
inductive SignatureError where
  /-- The algorithm is unknown. -/
  | unsupportedAlgorithm (uri : String)
  /-- The key cannot be read. -/
  | invalidKey (detail : String)
  /-- The signature cannot be read. -/
  | encoding (detail : String)
deriving Repr, DecidableEq

/-- The wording of an error. -/
def SignatureError.message : SignatureError → String
  | unsupportedAlgorithm uri => "unsupported signature algorithm: " ++ uri
  | invalidKey detail => "invalid key material: " ++ detail
  | encoding detail => "invalid signature encoding: " ++ detail

/-- A way of checking signatures. -/
abbrev Verifier :=
  (signed : List UInt8) → (algorithm : String) → (signature key : List UInt8) →
    Except SignatureError Bool

/-- A verifier with the key to use. -/
structure SignatureCheck where
  /-- The verifier. -/
  verifier : Verifier
  /-- The key it is given. -/
  key : List UInt8

end SamlConformance
