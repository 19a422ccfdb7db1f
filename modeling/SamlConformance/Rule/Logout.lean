import SamlConformance.Rule.Basic
import SamlConformance.Rule.Issuer
import SamlConformance.Rule.Values

/-!
# Logout

A request for logout names the subject it is about. Requests and responses of
the logout profile are signed, and issued by the provider under test.

## Main definitions

* `Logout.checkRequest`: What the protocol demands of requests.
* `Logout.checkProfile`: What the profile demands of both kinds of message.
-/

namespace SamlConformance

namespace Logout

open Xml (Element)

/-- What is wrong with the reason of a request, if it states one. -/
def reasonFindings (root : Element) : List Violation :=
  match root.attribute? "Reason" with
  | none => []
  | some reason => Values.uriFindings (some reason) (some .core_3_7_1_a)

/-- The request names a subject. -/
def namesSubject (root : Element) : Bool :=
  ["BaseID", "NameID", "EncryptedID"].any (root.hasChild Saml.assertionNs)

/-- What the protocol demands of requests. -/
def checkRequest (r : Reply) : Outcome :=
  let root := r.root
  if !root.is Saml.protocolNs "LogoutRequest" then .clean
  else
    (Outcome.report (reasonFindings root)).andThen (.failIf (!namesSubject root)
      ((Violation.of .core_3_7_1_b ("No <BaseID>, <NameID> or <EncryptedID> element was" ++
        " found in the <LogoutRequest>.")).shownAt root))

/-- What the profile demands of messages of one name. -/
def checkProfile (name title : String) (signed issued : Clause) (r : Reply) : Outcome :=
  let root := r.root
  if !root.is Saml.protocolNs name then .clean
  else if !r.isSigned then .fail (.of signed s!"The {title} was not signed.")
  else .ofFailure (issuerFault? root issued r.metadata)

/-- The rule of the protocol. -/
def protocolRule : Rule := ⟨"logout_request", checkRequest⟩

/-- The rules of the profile. -/
def profileRules : List Rule :=
  [ ⟨"logout_request",
      checkProfile "LogoutRequest" "Logout Request" .profiles_4_4_4_1_b .profiles_4_4_4_1_a⟩,
    ⟨"logout_response",
      checkProfile "LogoutResponse" "Logout Response" .profiles_4_4_4_2_b .profiles_4_4_4_2_a⟩ ]

end Logout

end SamlConformance
