import SamlConformance.Rule.Basic
import SamlConformance.Rule.Issuer

/-!
# The Sign-On Profile

A response that does not state an error has to give the browser what it needs to
sign on: an assertion of the provider under test, confirmed by mere possession
for this request, with a statement about the identification of the subject, meant
for this service provider, and signed when it travels through a form.

A response is told by its local name here, so that one in the wrong namespace
does not escape. One without a status counts as successful.

## Main definitions

* `SignOn.isSuccessful`: The responses the profile speaks about.
* `SignOn.rules`: The rules.
-/

namespace SamlConformance

namespace SignOn

open Xml (Element)

/-- A response, whatever its namespace. -/
def isResponse (root : Element) : Bool :=
  root.tag.name.localName == "Response"

/-- A response that does not state an error. -/
def isSuccessful (root : Element) : Bool :=
  isResponse root && !Saml.statesError root

/-- The check applies to responses that do not state an error. -/
def onSuccess (fault? : Reply → Option Violation) (r : Reply) : Outcome :=
  if isSuccessful r.root then .ofFailure (fault? r) else .clean

/-- No response arrives by redirect. -/
def checkBinding (r : Reply) : Outcome :=
  .failIf (isResponse r.root && r.message.received.binding == .redirect)
    (.of .profiles_4_1_2_a "The <Response> cannot be sent using Redirect Binding.")

/-- What is wrong with the issuers of a response and its assertions. -/
def issuersFault? (r : Reply) : Option Violation :=
  let root := r.root
  let own := if r.isSigned then issuerFault? root .profiles_4_1_4_2_a r.metadata else none
  own.or
    (if (Saml.assertions root).isEmpty then
      some ((Violation.of .profiles_4_1_4_2_b "No Assertions found.").shownAt root)
    else
      (Saml.assertions root).findSome? fun a => issuerFault? a .profiles_4_1_4_2_c r.metadata)

/-- A response that states an error carries no assertion. -/
def checkError (r : Reply) : Outcome :=
  if isResponse r.root && Saml.statesError r.root then
    .ofFailure ((Saml.assertionsBelow r.root).head?.map (Violation.of .profiles_4_1_4_2_j
      "An Assertion was found in a Response whose status is not Success.").shownAt)
  else .clean

/-- The data confirm the subject for a request. -/
def confirms (request : Request) (data : Element) : Bool :=
  data.attribute? "Recipient" == some request.acsUrl &&
    (data.attribute? "NotOnOrAfter").isSome && (data.attribute? "NotBefore").isNone &&
    data.attribute? "InResponseTo" == some request.id

/-- Some confirmation by mere possession is for the request. -/
def isConfirmed (root : Element) (request : Request) : Bool :=
  ((Saml.bearerAssertions root).flatMap Saml.bearerConfirmations).any fun c =>
    (c.childrenNamed Saml.assertionNs "SubjectConfirmationData").any (confirms request)

/-- What is wrong with the confirmations by mere possession. -/
def confirmationFault? (r : Reply) : Option Violation :=
  if (Saml.bearerAssertions r.root).isEmpty then
    some ((Violation.of .profiles_4_1_4_2_e
      "No bearer SubjectConfirmation elements were found.").shownAt r.root)
  else if isConfirmed r.root r.request then none
  else
    some ((Violation.of .profiles_4_1_4_2_f
      (s!"No bearer SubjectConfirmationData with Recipient [{r.request.acsUrl}]," ++
        s!" InResponseTo [{r.request.id}], a NotOnOrAfter and no NotBefore was found.")).shownAt
      r.root)

/-- The statements of possessed assertions about the identification of the subject. -/
def authentications (root : Element) : List Element :=
  (Saml.bearerAssertions root).flatMap fun a => a.childrenNamed Saml.assertionNs "AuthnStatement"

/-- What is wrong with these statements. -/
def authenticationFault? (r : Reply) : Option Violation :=
  if (authentications r.root).isEmpty then
    some ((Violation.of .profiles_4_1_4_2_g
      "None of the bearer Assertions contain an <AuthnStatement>.").shownAt r.root)
  else if r.metadata.supportsLogout then
    ((authentications r.root).find? fun s => (s.attribute? "SessionIndex").isNone).map
      (Violation.of .profiles_4_1_4_2_h
        "The IdP supports Single Logout but an <AuthnStatement> has no SessionIndex.").shownAt
  else none

/-- The restrictions of audience in the conditions of an assertion. -/
def restrictions (assertion : Element) : List Element :=
  match assertion.child? Saml.assertionNs "Conditions" with
  | none => []
  | some conditions => conditions.childrenNamed Saml.assertionNs "AudienceRestriction"

/-- The assertion is restricted once, to audiences that include a service
provider. -/
def isRestrictedTo (sp : String) (assertion : Element) : Bool :=
  match restrictions assertion with
  | [restriction] =>
    (restriction.childrenNamed Saml.assertionNs "Audience").any fun a => a.text == sp
  | _ => false

/-- What is wrong with the audiences of possessed assertions. -/
def audienceFault? (r : Reply) : Option Violation := do
  let sp ← r.request.spEntityId
  let assertion ← (Saml.bearerAssertions r.root).find? fun a => !isRestrictedTo sp a
  return (Violation.of .profiles_4_1_4_2_i
    s!"Bearer Assertion must have exactly one <AudienceRestriction> naming [{sp}].").shownAt
    assertion

/-- In a form, the response is signed or all its assertions are. -/
def signatureFault? (r : Reply) : Option Violation :=
  if r.message.received.binding == .post && !Saml.hasSignature r.root &&
      (Saml.assertions r.root).any fun a => !Saml.hasSignature a then
    some ((Violation.of .profiles_4_1_4_5_a
      "No digital signature found on the Response or Assertions.").shownAt r.root)
  else none

/-- The rules. -/
def rules : List Rule :=
  [ ⟨"response_binding", checkBinding⟩,
    ⟨"response_issuers", onSuccess issuersFault?⟩,
    ⟨"error_response", checkError⟩,
    ⟨"bearer_confirmation", onSuccess confirmationFault?⟩,
    ⟨"bearer_statements", onSuccess authenticationFault?⟩,
    ⟨"audience_restriction", onSuccess audienceFault?⟩,
    ⟨"post_signature", onSuccess signatureFault?⟩ ]

end SignOn

end SamlConformance
