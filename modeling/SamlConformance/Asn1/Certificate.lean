import SamlConformance.Asn1.Period

/-!
# Certificates

A provider publishes its key in a certificate. Nothing but the key is used of it:
neither the issuer nor the period of validity matters to this toolkit. Still, what
is no certificate is refused, and bytes that follow one are ignored.

## Main definitions

* `Certificate.publicKey?`: The bytes of the key in a certificate.
-/

namespace SamlConformance

namespace Certificate

/-- The number of a version: below 2^32, and in as few bytes as it needs. -/
def isVersion (bytes : List UInt8) : Bool :=
  match Der.plain? Der.integer bytes with
  | some (content, _) =>
    let n := BigEndian.value content
    n < 0x100000000 && Der.encode Der.integer content == Der.encodeNatural n
  | none => false

/-- What follows the version, if one is stated. -/
def pastVersion? (bytes : List UInt8) : Option (List UInt8) :=
  match Der.element? bytes with
  | none => none
  | some (e, rest) =>
    if e.header.byPlace ∧ e.header.number = 0 then
      if isVersion e.content then some rest else none
    else some bytes

/-- What follows the serial number, whose length may be left open. -/
def pastSerial? (bytes : List UInt8) : Option (List UInt8) :=
  match Der.header? bytes with
  | none => none
  | some (h, rest) =>
    if h.number = Der.integer then
      match h.length with
      | none => Der.pastOpen? (rest.length + 1) 1 rest
      | some n => if rest.length < n then none else some (rest.drop n)
    else none

/-- What follows a name, which is a value of any kind that is not made of values. -/
def pastName? (bytes : List UInt8) : Option (List UInt8) :=
  match Der.element? bytes with
  | some (e, rest) => if e.header.nested then none else some rest
  | none => none

/-- What follows an algorithm: its name and, if anything else, a value. -/
def pastAlgorithm? (bytes : List UInt8) : Option (List UInt8) := do
  let (content, rest) ← Der.content? Der.sequence bytes
  match ← pastName? content with
  | [] => some rest
  | more => (Der.element? more).map fun _ => rest

/-- What follows an identifier at a place, if it is there. -/
def pastIdentifier (n : Nat) (bytes : List UInt8) : List UInt8 :=
  match Der.element? bytes with
  | some (e, rest) =>
    if e.header.byPlace ∧ e.header.number = n ∧ e.content ≠ [] then rest else bytes
  | none => bytes

/-- What follows a flag of one byte, if it is there. -/
def pastFlag (bytes : List UInt8) : List UInt8 :=
  match Der.content? Der.boolean bytes with
  | some ([_], rest) => rest
  | _ => bytes

/-- What follows an extension: a name, a flag that may be missing, and bytes. -/
def pastExtension? (bytes : List UInt8) : Option (List UInt8) := do
  let (content, rest) ← Der.content? Der.sequence bytes
  let _ ← Der.plain? Der.octetString (pastFlag (← pastName? content))
  return rest

/-- Nothing but extensions, `n` at most. -/
def areExtensions : Nat → List UInt8 → Bool
  | _, [] => true
  | 0, _ => false
  | n + 1, bytes =>
    match pastExtension? bytes with
    | some rest => areExtensions n rest
    | none => false

/-- A sequence of extensions behind a header of a place. What the header says of its
length does not matter, as long as it says something. -/
def isExtensionPart (bytes : List UInt8) : Bool :=
  match Der.header? bytes with
  | some (⟨_, _, 3, some _⟩, rest) =>
    match Der.content? Der.sequence rest with
    | some (extensions, []) => areExtensions extensions.length extensions
    | _ => false
  | _ => false

/-- What may follow the key: two identifiers, and extensions to the end. -/
def isTail (bytes : List UInt8) : Bool :=
  match pastIdentifier 2 (pastIdentifier 1 bytes) with
  | [] => true
  | rest => isExtensionPart rest

/-- The bytes of the key in the signed part of a certificate. -/
def keyOfSigned? (bytes : List UInt8) : Option (List UInt8) := do
  let rest ← pastVersion? bytes
  let rest ← pastSerial? rest
  let rest ← pastAlgorithm? rest
  let rest ← Der.past? Der.sequence rest
  let rest ← Period.past? rest
  let rest ← Der.past? Der.sequence rest
  let (info, rest) ← Der.content? Der.sequence rest
  let (key, _) ← Der.bits? (← pastAlgorithm? info)
  if isTail rest then some key else none

/-- The bytes of the key in a certificate. -/
def publicKey? (bytes : List UInt8) : Option (List UInt8) := do
  let (content, _) ← Der.content? Der.sequence bytes
  let (signed, rest) ← Der.content? Der.sequence content
  let key ← keyOfSigned? signed
  let rest ← pastAlgorithm? rest
  let _ ← Der.bits? rest
  return key

end Certificate

end SamlConformance
