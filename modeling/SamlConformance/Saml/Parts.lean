import SamlConformance.Saml.Vocabulary
import SamlConformance.Spec.Violation
import SamlConformance.Text.Cut
import SamlConformance.Xml.Printer
import SamlConformance.Xml.Tree

/-!
# Parts of Messages

The elements of requests, responses and assertions that several rules look at.
What a missing part means is left to the rules: here it is just not found.

## Main definitions

* `Saml.assertions`: The assertions of a response.
* `Saml.topStatus?`: The status code that decides.
* `Saml.bearerConfirmations`: The confirmations by mere possession.
* `Saml.namedBy`: The identifiers of one format.
-/

namespace SamlConformance

namespace Saml

open Xml (Element)

/-- The assertions directly in an element. -/
def assertions (e : Element) : List Element :=
  e.childrenNamed assertionNs "Assertion"

/-- The assertions anywhere below an element. -/
def assertionsBelow (e : Element) : List Element :=
  e.descendantsNamed assertionNs "Assertion"

/-- The issuers an element names. -/
def issuers (e : Element) : List Element :=
  e.childrenNamed assertionNs "Issuer"

/-- The element has a subject. -/
def hasSubject (assertion : Element) : Bool :=
  assertion.hasChild assertionNs "Subject"

/-- The element carries a signature. -/
def hasSignature (e : Element) : Bool :=
  e.hasChild signatureNs "Signature"

/-- The status code at the top of the status of a response. -/
def topStatus? (root : Element) : Option String := do
  let status ← root.child? protocolNs "Status"
  let code ← status.child? protocolNs "StatusCode"
  code.attribute? "Value"

/-- The response states success. -/
def statesSuccess (root : Element) : Bool :=
  topStatus? root == some StatusCode.success.uri

/-- The response states something other than success. -/
def statesError (root : Element) : Bool :=
  (topStatus? root).any fun code => code != StatusCode.success.uri

/-- A message of the protocol that reports a status. -/
def isStatusResponse (root : Element) : Bool :=
  root.tag.name.uri == some protocolNs && Text.endsWith "Response" root.tag.name.localName

/-- The confirmations of the first subject of an assertion that are by mere
possession. -/
def bearerConfirmations (assertion : Element) : List Element :=
  match assertion.child? assertionNs "Subject" with
  | none => []
  | some subject =>
    (subject.childrenNamed assertionNs "SubjectConfirmation").filter fun c =>
      c.attribute? "Method" == some bearerMethod

/-- The assertions of a response that mere possession confirms. -/
def bearerAssertions (root : Element) : List Element :=
  (assertions root).filter fun a => !(bearerConfirmations a).isEmpty

/-- The element or elements below that state a format of name identifiers. -/
def namedBy (root : Element) (format : NameIdFormat) : List Element :=
  root.self.filter fun e => e.attribute? "Format" == some format.uri

end Saml

/-- The violation, shown at an element. -/
def Violation.shownAt (v : Violation) (e : Xml.Element) : Violation :=
  v.showing e.toXml

end SamlConformance
