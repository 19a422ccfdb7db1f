import SamlConformance.Rule.Basic
import SamlConformance.Rule.Values
import SamlConformance.Saml.Parts

/-!
# Responses of the Protocol

A message that reports a status answers the request that was sent, was issued at
a stated time, is meant for the address at which it was received, and states a
status that the protocol knows.

## Main definitions

* `StatusResponse.checkHead`: The attributes of the document element.
* `StatusResponse.checkStatus`: The status.
* `StatusResponse.checkSignOn`: What a successful response to a sign-on carries.
-/

namespace SamlConformance

namespace StatusResponse

open Xml (Element)

/-- What is wrong with a value that has to be a given one. -/
def mismatchFindings (c : Clause) (property : String) (actual : Option String)
    (expected : String) : List Violation :=
  if actual = some expected then [] else [.mismatch c property actual expected]

/-- What is wrong with the time of issue. -/
def issuedFindings (root : Element) : List Violation :=
  match root.attribute? "IssueInstant" with
  | some issued => Values.timeFindings issued (some .core_3_2_2_d)
  | none => [.invalid .core_3_2_2_d "IssueInstant" none]

/-- What is wrong with the address a response is meant for, if it names one. -/
def destinationFindings (root : Element) (acsUrl : String) : List Violation :=
  match root.attribute? "Destination" with
  | none => []
  | some d =>
    Values.uriFindings (some d) (some .core_3_2_2_e) ++
      mismatchFindings .core_3_2_2_e "Destination" (some d) acsUrl

/-- Looks at the attributes of the document element. -/
def checkHead (r : Reply) : Outcome :=
  let root := r.root
  if !Saml.isStatusResponse root then .clean
  else if (root.attribute? "ID").isNone then
    .fail ((Violation.of .core_3_2_2_a
      s!"The <{root.tag.name.localName}> element has no ID attribute.").shownAt root)
  else
    .report (
      mismatchFindings .core_3_2_2_b "InResponseTo" (root.attribute? "InResponseTo")
        r.request.id ++
      mismatchFindings .core_3_2_2_c "Version" (root.attribute? "Version") Saml.version ++
      issuedFindings root ++
      destinationFindings root r.request.acsUrl)

/-- What is wrong with the status code that decides. -/
def topStatusFindings (root status : Element) : List Violation :=
  let top := Saml.topStatus? root
  let shown := top.getD ""
  if top.any Saml.StatusCode.isTopLevel then []
  else
    [(Violation.of .core_3_2_2_2_a
      s!"The first <StatusCode> of [{shown}] is not a top level SAML status code.").shownAt
      status]

/-- What is wrong with the types of values in a status. -/
def statusValueFindings (status : Element) : List Violation :=
  ((status.descendantsNamed Saml.protocolNs "StatusCode").flatMap fun code =>
    Values.uriFindings (code.attribute? "Value") none) ++
  (status.childrenNamed Saml.protocolNs "StatusMessage").flatMap fun message =>
    Values.textFindings message.text

/-- Looks at the status. -/
def checkStatus (r : Reply) : Outcome :=
  let root := r.root
  if !Saml.isStatusResponse root then .clean
  else
    match root.child? Saml.protocolNs "Status" with
    | none =>
      .fail ((Violation.of .core_3_2_2_2_a
        s!"The <{root.tag.name.localName}> element has no <Status>.").shownAt root)
    | some status => .report (topStatusFindings root status ++ statusValueFindings status)

/-- The assertion names a service provider among its audiences. -/
def isFor (sp : String) (assertion : Element) : Bool :=
  (assertion.descendantsNamed Saml.assertionNs "AudienceRestriction").any fun restriction =>
    (restriction.childrenNamed Saml.assertionNs "Audience").any fun audience =>
      audience.text == sp

/-- The violation of a response without an assertion, plain or encrypted. -/
def noAssertion? (root : Element) : Option Violation :=
  if (Saml.assertions root).isEmpty && !root.hasChild Saml.assertionNs "EncryptedAssertion" then
    some ((Violation.of .core_3_4_1_4_a
      "Did not find Response elements with one or more Assertion elements.").shownAt root)
  else none

/-- The violation of an assertion about nobody. -/
def noSubject? (root : Element) : Option Violation :=
  ((Saml.assertionsBelow root).find? fun a => !Saml.hasSubject a).map
    (Violation.of .core_3_4_1_4_c "One of the Assertions contained no Subject.").shownAt

/-- The violation of assertions of which none says how the subject was identified. -/
def noAuthentication? (root : Element) : Option Violation :=
  let assertions := Saml.assertions root
  if !assertions.isEmpty &&
      assertions.all fun a => !a.hasChild Saml.assertionNs "AuthnStatement" then
    some (((Violation.of .core_3_4_a
      "AuthnStatement not found in any of the Assertions.").also .core_3_4_1_4_d).shownAt root)
  else none

/-- The violation of an assertion that is not for the service provider. -/
def wrongAudience? (root : Element) (spEntityId : Option String) : Option Violation := do
  let sp ← spEntityId
  let assertion ← (Saml.assertions root).find? fun a => !isFor sp a
  return (Violation.of .core_3_4_1_4_e
    "Assertion found without an AudienceRestriction referencing the requester.").shownAt assertion

/-- Looks at what a successful response to a sign-on carries. -/
def checkSignOn (r : Reply) : Outcome :=
  let root := r.root
  if root.is Saml.protocolNs "Response" && Saml.statesSuccess root then
    .ofFailure ((noAssertion? root).or ((noSubject? root).or ((noAuthentication? root).or
      (wrongAudience? root r.request.spEntityId))))
  else .clean

/-- The rules. -/
def rules : List Rule :=
  [⟨"status_response", checkHead⟩, ⟨"status_code", checkStatus⟩, ⟨"authn_response", checkSignOn⟩]

end StatusResponse

end SamlConformance
