import SamlConformance.Rule.Basic
import SamlConformance.Saml.Parts

/-!
# References of Signatures

A signature inside a document covers the element it stands in and nothing else:
it has one reference, and that refers to the identifier of the element.

## Main definitions

* `SignatureReference.findings`: What is wrong with the reference of a signature.
-/

namespace SamlConformance

namespace SignatureReference

open Xml (Element)

/-- What a reference to an element says. -/
def referenceTo (signed : Element) : String :=
  "#" ++ (signed.attribute? "ID").getD ""

/-- What is wrong with the reference of a signature in an element. -/
def findings (signed signature : Element) : List Violation :=
  match signature.descendantsNamed Saml.signatureNs "Reference" with
  | [reference] =>
    match reference.attribute? "URI" with
    | none => [.of .core_5_4_2_a "URI attribute not found."]
    | some uri =>
      if uri = referenceTo signed then []
      else
        [(Violation.mismatch .core_5_4_2_a "URI" (some uri) (referenceTo signed)).shownAt
          signature]
  | references =>
    [.of .core_5_4_2_a
      s!"A signature needs to have exactly one Reference, {references.length} found."]

/-- The signatures directly in an element. -/
def signatures (e : Element) : List Element :=
  e.childrenNamed Saml.signatureNs "Signature"

/-- Looks at all signatures. -/
def check (r : Reply) : Outcome :=
  .report (r.root.self.flatMap fun e => (signatures e).flatMap (findings e))

/-- The rule. -/
def rule : Rule := ⟨"signature_references", check⟩

end SignatureReference

end SamlConformance
