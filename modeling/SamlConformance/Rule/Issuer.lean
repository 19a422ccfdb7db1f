import SamlConformance.Idp.Metadata
import SamlConformance.Saml.Parts

/-!
# Issuers

Where the profiles demand an issuer, it is the provider under test: named once,
by its entity identifier, and in no other format than that of entities.

## Main definitions

* `issuerFault?`: What is wrong with the issuer of an element.
-/

namespace SamlConformance

open Xml (Element)

/-- What is wrong with the single issuer of an element. -/
def issuerNameFault? (e issuer : Element) (c : Clause) (m : IdpMetadata) : Option Violation :=
  let name := e.tag.name.localName
  let entity := Saml.NameIdFormat.entity.uri
  if issuer.text ≠ m.entityId then
    some ((Violation.mismatch c s!"{name}'s issuer" (some issuer.text) m.entityId).shownAt issuer)
  else
    match issuer.attribute? "Format" with
    | none => none
    | some format =>
      if format = entity then none
      else
        some ((Violation.mismatch c s!"{name}'s issuer format" (some format) entity).shownAt
          issuer)

/-- What is wrong with the issuer of an element. -/
def issuerFault? (e : Element) (c : Clause) (m : IdpMetadata) : Option Violation :=
  match Saml.issuers e with
  | [issuer] => issuerNameFault? e issuer c m
  | issuers =>
    some ((Violation.of c (s!"{issuers.length} <Issuer> element(s) were found under" ++
      s!" {e.tag.name.localName}.")).shownAt e)

end SamlConformance
