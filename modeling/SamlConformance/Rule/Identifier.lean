import SamlConformance.Rule.Basic
import SamlConformance.Saml.Parts

/-!
# Name Identifiers

What the format of a name identifier promises about its content. The format
counts on whatever element it is stated.

## Main definitions

* `Identifier.isEmail`: The shape of e-mail addresses.
* `Identifier.rules`: One rule for each format that promises something.
-/

namespace SamlConformance

namespace Identifier

open Xml (Element)

/-- A character of the part of an address before the at sign. -/
def isAtomChar (c : Char) : Bool :=
  c.isAlphanum || "!#$%&'*+/=?^_\x60\x7b|\x7d~-".toList.contains c

/-- A piece between full stops before the at sign. -/
def isAtom (piece : List Char) : Bool :=
  !piece.isEmpty && piece.all isAtomChar

/-- A character of the label of a host. -/
def isLabelChar (c : Char) : Bool :=
  c.isAlphanum || c == '-'

/-- A piece between full stops after the at sign. -/
def isLabel (piece : List Char) : Bool :=
  !piece.isEmpty && piece.head? != some '-' && piece.getLast? != some '-' &&
    piece.all isLabelChar

/-- A name and a host around an at sign, the host of two labels at least. -/
def isEmail (value : String) : Bool :=
  match Text.cutFirst '@' value.toList with
  | (_, none) => false
  | (name, some host) =>
    let labels := host.splitOn '.'
    (name.splitOn '.').all isAtom && 2 ≤ labels.length && labels.all isLabel

/-- The most characters the identifier of an entity may have. -/
def entityLimit : Nat := 1024

/-- The most characters a pseudonym may have. -/
def pseudonymLimit : Nat := 256

/-- The violation of an identifier that is no e-mail address. -/
def emailFault? (e : Element) : Option Violation :=
  if isEmail e.text then none
  else
    some ((Violation.of .core_8_3_2_a (s!"The content [{e.text}] of the Identifier" ++
      s!" [{e.tag.name.localName}] was not in the format specified by the Format attribute" ++
      s!" [{Saml.NameIdFormat.email.uri}].")).shownAt e)

/-- The violation of an identifier that is none of an entity. -/
def entityFault? (e : Element) : Option Violation :=
  if ["NameQualifier", "SPNameQualifier", "SPProvidedID"].any fun n =>
      (e.attribute? n).isSome then
    some ((Violation.of .core_8_3_6_a
      "Entity Identifier included a disallowed attribute.").shownAt e)
  else if e.text.length > entityLimit then
    some (.of .core_8_3_6_b s!"Length of URI [{e.text}] is [{e.text.length}].")
  else none

/-- The violation of a pseudonym that is too long. -/
def lengthFault? (kind : String) (c : Clause) (e : Element) : Option Violation :=
  if e.text.length > pseudonymLimit then
    some ((Violation.of c (s!"The length of the {kind} ID's value [{e.text.length}] was" ++
      s!" greater than {pseudonymLimit} characters.")).shownAt e)
  else none

/-- The violation of a lasting pseudonym that is qualified by another provider. -/
def qualifierFault? (entityId : String) (e : Element) : Option Violation :=
  match e.attribute? "NameQualifier" with
  | none => none
  | some qualifier =>
    if qualifier = entityId then none
    else
      some ((Violation.mismatch .core_8_3_7_b "Persistent ID's NameQualifier" (some qualifier)
        entityId).shownAt e)

/-- The first identifier of a format at which something is wrong. -/
def checkFormat (format : Saml.NameIdFormat) (fault? : Reply → Element → Option Violation)
    (r : Reply) : Outcome :=
  .ofFailure ((Saml.namedBy r.root format).findSome? (fault? r))

/-- The rules. -/
def rules : List Rule :=
  [ ⟨"email_identifiers", checkFormat .email fun _ => emailFault?⟩,
    ⟨"entity_identifiers", checkFormat .entity fun _ => entityFault?⟩,
    ⟨"persistent_identifiers", checkFormat .persistent fun r e =>
      (lengthFault? "Persistent" .core_8_3_7_a e).or (qualifierFault? r.metadata.entityId e)⟩,
    ⟨"transient_identifiers", checkFormat .transient fun _ =>
      lengthFault? "Transient" .core_8_3_8_a⟩ ]

end Identifier

end SamlConformance
