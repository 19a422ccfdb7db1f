import SamlConformance.Asn1.Der

/-!
# Keys with Their Algorithm

Bytes of a key may say themselves of which algorithm they are: a sequence of the
algorithm, with its parameters, and of a string of all the bits of the key. One
writing alone of it is read, and bytes that follow it are ignored.

## Main definitions

* `KeyInfo`: A key, with the name of its algorithm and the parameters.
* `KeyInfo.ofBytes?`: Reads it.
-/

namespace SamlConformance

/-- A key that says of which algorithm it is. -/
structure KeyInfo where
  /-- The registered name of the algorithm. -/
  algorithm : List UInt8
  /-- The bytes of its parameters. -/
  parameters : List UInt8
  /-- The bytes of the key. -/
  key : List UInt8
deriving Repr, DecidableEq

namespace KeyInfo

/-- The key at the start of a list of bytes. -/
def ofBytes? (bytes : List UInt8) : Option KeyInfo := do
  let (content, _) ← Der.strict? Der.sequence bytes
  let (way, rest) ← Der.strict? Der.sequence content
  let (algorithm, parameters) ← Der.strict? Der.objectId way
  match ← Der.strict? Der.bitString rest with
  | (0 :: key, []) => some ⟨algorithm, parameters, key⟩
  | _ => none

end KeyInfo

end SamlConformance
