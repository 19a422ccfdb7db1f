import SamlConformance.Proofs.Rule.Inspection.Core

/-!
# The Rules of the Other Layers on One List

The rules about requests and responses, about sign-on and logout, and about bindings, written
as steps like the core rules. Most of them apply to messages of one kind only, and do not touch
the list for others.

The rules of the profile break off with the first thing that is wrong and put nothing on the
list. Those of the bindings do the contrary. The rules of the protocol do both: those that
report break off, if at all, before they report anything or after all of it, and what they
have put on the list by then stays.

## Main definitions

* `StatusResponse.inspectHead`, `StatusResponse.inspectStatus`: Steps that report and may break
  off.
* `SignOn.inspectSuccess`: A step that is taken for successful responses.
* `Inspector.protocol`, `Inspector.profile`, `Inspector.redirect`, `Inspector.post`: The rules
  as steps.

## Theorems

* `Inspector.carries_protocol`, `Inspector.carries_profile`, `Inspector.carries_redirect`,
  `Inspector.carries_post`: Every rule is carried by its step.
-/

namespace SamlConformance

open Xml (Element)
open Inspection

namespace StatusResponse

def inspectMismatch (c : Clause) (property : String) (actual : Option String)
    (expected : String) : Inspection Unit :=
  reportUnless (actual = some expected) (.mismatch c property actual expected)

def inspectIssued (root : Element) : Inspection Unit :=
  match root.attribute? "IssueInstant" with
  | some issued => Values.inspectTime issued (some .core_3_2_2_d)
  | none => report (.invalid .core_3_2_2_d "IssueInstant" none)

def inspectDestination (root : Element) (acsUrl : String) : Inspection Unit :=
  match root.attribute? "Destination" with
  | none => pure ()
  | some d => do
    Values.inspectUri (some d) (some .core_3_2_2_e)
    inspectMismatch .core_3_2_2_e "Destination" (some d) acsUrl

def inspectHead (r : Reply) : Inspection Unit :=
  let root := r.root
  if !Saml.isStatusResponse root then pure ()
  else if (root.attribute? "ID").isNone then
    -- Nothing is on the list yet, and nothing more comes onto it.
    throw ((Violation.of .core_3_2_2_a
      s!"The <{root.tag.name.localName}> element has no ID attribute.").shownAt root)
  else do
    inspectMismatch .core_3_2_2_b "InResponseTo" (root.attribute? "InResponseTo") r.request.id
    inspectMismatch .core_3_2_2_c "Version" (root.attribute? "Version") Saml.version
    inspectIssued root
    inspectDestination root r.request.acsUrl

def inspectTop (root status : Element) : Inspection Unit :=
  let top := Saml.topStatus? root
  let shown := top.getD ""
  reportUnless (top.any Saml.StatusCode.isTopLevel)
    ((Violation.of .core_3_2_2_2_a
      s!"The first <StatusCode> of [{shown}] is not a top level SAML status code.").shownAt
      status)

def inspectStatus (r : Reply) : Inspection Unit :=
  let root := r.root
  if !Saml.isStatusResponse root then pure ()
  else
    match root.child? Saml.protocolNs "Status" with
    | none =>
      throw ((Violation.of .core_3_2_2_2_a
        s!"The <{root.tag.name.localName}> element has no <Status>.").shownAt root)
    | some status => do
      inspectTop root status
      (status.descendantsNamed Saml.protocolNs "StatusCode").forM fun code =>
        Values.inspectUri (code.attribute? "Value") none
      (status.childrenNamed Saml.protocolNs "StatusMessage").forM fun message =>
        Values.inspectText message.text

/-- Looks at what a successful response to a sign-on carries. -/
def inspectSignOn (r : Reply) : Inspection Unit :=
  let root := r.root
  if root.is Saml.protocolNs "Response" && Saml.statesSuccess root then do
    stop (noAssertion? root)
    stop (noSubject? root)
    stop (noAuthentication? root)
    stop (wrongAudience? root r.request.spEntityId)
  else pure ()

theorem carries_inspectMismatch (c : Clause) (property : String) (actual : Option String)
    (expected : String) : (inspectMismatch c property actual expected).Carries
      (.report (mismatchFindings c property actual expected)) :=
  carries_reportUnless _ _

theorem carries_inspectIssued (root : Element) :
    (inspectIssued root).Carries (.report (issuedFindings root)) := by
  unfold inspectIssued issuedFindings
  cases root.attribute? "IssueInstant" with
  | none => exact carries_report _
  | some issued => exact Values.carries_inspectTime _ _

theorem carries_inspectDestination (root : Element) (acsUrl : String) :
    (inspectDestination root acsUrl).Carries (.report (destinationFindings root acsUrl)) := by
  unfold inspectDestination destinationFindings
  cases root.attribute? "Destination" with
  | none => exact carries_pure
  | some d =>
      exact carries_bind_report (Values.carries_inspectUri _ _) (carries_inspectMismatch _ _ _ _)

theorem carries_inspectHead (r : Reply) : (inspectHead r).Carries (checkHead r) := by
  have hrest := carries_bind_report
    (carries_inspectMismatch .core_3_2_2_b "InResponseTo" (r.root.attribute? "InResponseTo")
      r.request.id)
    (carries_bind_report
      (carries_inspectMismatch .core_3_2_2_c "Version" (r.root.attribute? "Version") Saml.version)
      (carries_bind_report (carries_inspectIssued r.root)
        (carries_inspectDestination r.root r.request.acsUrl)))
  -- The findings are put together from the left, the steps are taken from the right.
  rw [← List.append_assoc, ← List.append_assoc] at hrest
  exact carries_ite id _ carries_pure (carries_ite id _ (carries_throw _) hrest)

theorem carries_inspectTop (root status : Element) :
    (inspectTop root status).Carries (.report (topStatusFindings root status)) :=
  carries_reportUnless _ _

theorem carries_inspectStatus (r : Reply) : (inspectStatus r).Carries (checkStatus r) := by
  refine carries_ite id _ carries_pure ?_
  dsimp only [id]
  cases r.root.child? Saml.protocolNs "Status" with
  | none => exact carries_throw _
  | some status =>
      exact carries_bind_report (carries_inspectTop _ _) (carries_bind_report
        (carries_forM_report _ fun _ => Values.carries_inspectUri _ _)
        (carries_forM_report _ fun _ => Values.carries_inspectText _))

theorem carries_inspectSignOn (r : Reply) : (inspectSignOn r).Carries (checkSignOn r) :=
  carries_ite id _ (carries_bind_stop (carries_stop _) (carries_bind_stop (carries_stop _)
    (carries_bind_stop (carries_stop _) (carries_stop _)))) carries_pure

end StatusResponse

namespace Logout

def inspectReason (root : Element) : Inspection Unit :=
  match root.attribute? "Reason" with
  | none => pure ()
  | some reason => Values.inspectUri (some reason) (some .core_3_7_1_a)

/-- Looks at a request, as the protocol demands. -/
def inspectRequest (r : Reply) : Inspection Unit :=
  let root := r.root
  if !root.is Saml.protocolNs "LogoutRequest" then pure ()
  else do
    -- What is wrong with the reason stays on the list when the subject is missing.
    inspectReason root
    stopIf (!namesSubject root)
      ((Violation.of .core_3_7_1_b ("No <BaseID>, <NameID> or <EncryptedID> element was" ++
        " found in the <LogoutRequest>.")).shownAt root)

/-- Looks at a message of one name, as the profile demands. -/
def inspectProfile (name title : String) (signed issued : Clause) (r : Reply) :
    Inspection Unit :=
  let root := r.root
  if !root.is Saml.protocolNs name then pure ()
  else if !r.isSigned then throw (.of signed s!"The {title} was not signed.")
  else stop (issuerFault? root issued r.metadata)

theorem carries_inspectReason (root : Element) :
    (inspectReason root).Carries (.report (reasonFindings root)) := by
  unfold inspectReason reasonFindings
  cases root.attribute? "Reason" with
  | none => exact carries_pure
  | some reason => exact Values.carries_inspectUri _ _

theorem carries_inspectRequest (r : Reply) : (inspectRequest r).Carries (checkRequest r) :=
  carries_ite id _ carries_pure
    (carries_bind (carries_inspectReason r.root) (carries_stopIf _ _))

theorem carries_inspectProfile (name title : String) (signed issued : Clause) (r : Reply) :
    (inspectProfile name title signed issued r).Carries (checkProfile name title signed issued r) :=
  carries_ite id _ carries_pure (carries_ite id _ (carries_throw _) (carries_stop _))

end Logout

namespace SignOn

/-- The step is taken for responses that do not state an error. -/
def inspectSuccess (step : Reply → Inspection Unit) (r : Reply) : Inspection Unit :=
  if isSuccessful r.root then step r else pure ()

def inspectBinding (r : Reply) : Inspection Unit :=
  stopIf (isResponse r.root && r.message.received.binding == .redirect)
    (.of .profiles_4_1_2_a "The <Response> cannot be sent using Redirect Binding.")

/-- Looks at the issuer of a response itself, which only a signed one has to name. -/
def inspectOwnIssuer (r : Reply) : Inspection Unit :=
  if r.isSigned then stop (issuerFault? r.root .profiles_4_1_4_2_a r.metadata) else pure ()

def inspectIssuers (r : Reply) : Inspection Unit := do
  inspectOwnIssuer r
  if (Saml.assertions r.root).isEmpty then
    throw ((Violation.of .profiles_4_1_4_2_b "No Assertions found.").shownAt r.root)
  else
    (Saml.assertions r.root).forM fun a => stop (issuerFault? a .profiles_4_1_4_2_c r.metadata)

def inspectError (r : Reply) : Inspection Unit :=
  if isResponse r.root && Saml.statesError r.root then
    stop ((Saml.assertionsBelow r.root).head?.map (Violation.of .profiles_4_1_4_2_j
      "An Assertion was found in a Response whose status is not Success.").shownAt)
  else pure ()

theorem carries_inspectSuccess {step : Reply → Inspection Unit}
    {fault? : Reply → Option Violation} (h : ∀ r, (step r).Carries (.ofFailure (fault? r)))
    (r : Reply) : (inspectSuccess step r).Carries (onSuccess fault? r) :=
  carries_ite id _ (h r) carries_pure

theorem carries_inspectBinding (r : Reply) : (inspectBinding r).Carries (checkBinding r) :=
  carries_stopIf _ _

theorem carries_inspectIssuers (r : Reply) :
    (inspectIssuers r).Carries (.ofFailure (issuersFault? r)) :=
  carries_bind_stop (carries_ite .ofFailure _ (carries_stop _) carries_pure)
    (carries_ite .ofFailure _ (carries_throw _) (carries_forM_stop _ fun _ => carries_stop _))

theorem carries_inspectError (r : Reply) : (inspectError r).Carries (checkError r) :=
  carries_ite id _ (carries_stop _) carries_pure

end SignOn

namespace Transport

def inspectDestination (r : Reply) (c : Clause) : Inspection Unit :=
  reportUnless (r.root.attribute? "Destination" = some r.request.acsUrl)
    ((Violation.mismatch c "Destination" (r.root.attribute? "Destination")
      r.request.acsUrl).shownAt r.root)

def inspectLength (relayState : String) (c : Clause) : Inspection Unit :=
  let n := relayState.utf8ByteSize
  if n > Saml.relayStateLimit then
    report (.of c
      s!"RelayState value of [{relayState}] is {n} bytes, longer than {Saml.relayStateLimit}.")
  else pure ()

/-- Looks for a relay state that is not there. -/
def inspectMissing (given : Bool) (c : Clause) : Inspection Unit :=
  if given then report (.of c "RelayState not found.") else pure ()

def inspectRedirectStatus (r : Reply) : Inspection Unit :=
  let status := r.message.received.status
  reportUnless (status = 302 ∨ status = 303)
    (.mismatch .bindings_3_4_6_a "HTTP Status Code" (some (toString status)) "302 or 303")

def inspectRedirectEcho (raw decoded expected : String) : Inspection Unit :=
  if decoded = expected then pure ()
  else if raw = expected then
    report (.of .bindings_3_4_4_1_d s!"RelayState [{raw}] was not URL encoded.")
  else report (.mismatch .bindings_3_4_3_b "RelayState" (some decoded) expected)

def inspectRedirectRelayState (r : Reply) : Inspection Unit :=
  match r.message.received.get? .relayState with
  | none => inspectMissing r.relayStateGiven .bindings_3_4_3_b
  | some raw =>
    match formText? raw with
    | none =>
      -- What is no form data has no length and is not compared.
      report (.of .bindings_3_4_4_1_d s!"RelayState [{raw}] could not be URL decoded.")
    | some decoded => do
      inspectLength decoded .bindings_3_4_3_a
      if r.relayStateGiven then inspectRedirectEcho raw decoded r.request.relayState
        else pure ()

def inspectRedirectEncoding (r : Reply) : Inspection Unit :=
  match r.message.received.get? .encoding with
  | none => pure ()
  | some raw => Values.inspectUri (some ((formText? raw).getD raw)) (some .bindings_3_4_4_a)

def inspectRedirectSignature (r : Reply) : Inspection Unit :=
  match r.root.child? Saml.signatureNs "Signature" with
  | none => pure ()
  | some signature =>
    report ((Violation.of .bindings_3_4_4_1_a "Signature element found.").shownAt signature)

def inspectRedirectDestination (r : Reply) : Inspection Unit :=
  if r.message.hasQuerySignature then inspectDestination r .bindings_3_4_5_2_a else pure ()

def inspectPostStatus (r : Reply) : Inspection Unit :=
  let status := r.message.received.status
  reportUnless (status < 400)
    (.of .bindings_3_5_6_a s!"HTTP Status Code [{status}] is an error status.")

def inspectPostRelayState (r : Reply) : Inspection Unit :=
  match r.message.received.get? .relayState with
  | none => inspectMissing r.relayStateGiven .bindings_3_5_3_b
  | some value => do
    inspectLength value .bindings_3_5_3_a
    if r.relayStateGiven && value != r.request.relayState then
      report (.mismatch .bindings_3_5_3_b "RelayState" (some value) r.request.relayState)
      else pure ()

/-- Looks at the address of a form with any signature in its document. -/
def inspectPostDestination (r : Reply) : Inspection Unit :=
  if (r.root.descendantsNamed Saml.signatureNs "Signature").isEmpty then pure ()
  else inspectDestination r .bindings_3_5_5_2_a

theorem carries_inspectDestination (r : Reply) (c : Clause) :
    (inspectDestination r c).Carries (.report (destinationFindings r c)) :=
  carries_reportUnless _ _

theorem carries_inspectLength (relayState : String) (c : Clause) :
    (inspectLength relayState c).Carries (.report (lengthFindings relayState c)) :=
  carries_ite .report _ (carries_report _) carries_pure

theorem carries_inspectMissing (given : Bool) (c : Clause) :
    (inspectMissing given c).Carries (.report (missingFindings given c)) :=
  carries_ite .report _ (carries_report _) carries_pure

theorem carries_inspectRedirectStatus (r : Reply) :
    (inspectRedirectStatus r).Carries (redirectStatus r) :=
  carries_ite id _ carries_pure (carries_report _)

theorem carries_inspectRedirectEcho (raw decoded expected : String) :
    (inspectRedirectEcho raw decoded expected).Carries
      (.report (redirectEchoFindings raw decoded expected)) :=
  carries_ite .report _ carries_pure
    (carries_ite .report _ (carries_report _) (carries_report _))

theorem carries_inspectRedirectRelayState (r : Reply) :
    (inspectRedirectRelayState r).Carries (redirectRelayState r) := by
  unfold inspectRedirectRelayState redirectRelayState relayStateOutcome
  cases r.message.received.get? .relayState with
  | none => exact carries_inspectMissing _ _
  | some raw =>
      dsimp only
      cases formText? raw with
      | none => exact carries_report _
      | some decoded =>
          exact carries_bind_report (carries_inspectLength _ _)
            (carries_ite .report _ (carries_inspectRedirectEcho _ _ _) carries_pure)

theorem carries_inspectRedirectEncoding (r : Reply) :
    (inspectRedirectEncoding r).Carries (redirectEncoding r) := by
  unfold inspectRedirectEncoding redirectEncoding
  cases r.message.received.get? .encoding with
  | none => exact carries_pure
  | some raw => exact Values.carries_inspectUri _ _

theorem carries_inspectRedirectSignature (r : Reply) :
    (inspectRedirectSignature r).Carries (redirectSignature r) := by
  unfold inspectRedirectSignature redirectSignature
  cases r.root.child? Saml.signatureNs "Signature" with
  | none => exact carries_pure
  | some signature => exact carries_report _

theorem carries_inspectRedirectDestination (r : Reply) :
    (inspectRedirectDestination r).Carries (redirectDestination r) :=
  carries_ite id _ (carries_inspectDestination _ _) carries_pure

theorem carries_inspectPostStatus (r : Reply) :
    (inspectPostStatus r).Carries (postStatus r) :=
  carries_ite id _ carries_pure (carries_report _)

theorem carries_inspectPostRelayState (r : Reply) :
    (inspectPostRelayState r).Carries (postRelayState r) := by
  unfold inspectPostRelayState postRelayState
  cases r.message.received.get? .relayState with
  | none => exact carries_inspectMissing _ _
  | some value =>
      exact carries_bind_report (carries_inspectLength _ _)
        (carries_ite .report _ (carries_report _) carries_pure)

theorem carries_inspectPostDestination (r : Reply) :
    (inspectPostDestination r).Carries (postDestination r) :=
  carries_ite id _ carries_pure (carries_inspectDestination _ _)

end Transport

namespace Inspector

/-- The rules about requests and responses as steps. -/
def protocol : List Inspector :=
  [ ⟨"status_response", StatusResponse.inspectHead⟩,
    ⟨"status_code", StatusResponse.inspectStatus⟩,
    ⟨"authn_response", StatusResponse.inspectSignOn⟩,
    ⟨"logout_request", Logout.inspectRequest⟩ ]

/-- The rules about sign-on and logout as steps. -/
def profile : List Inspector :=
  [ ⟨"response_binding", SignOn.inspectBinding⟩,
    ⟨"response_issuers", SignOn.inspectSuccess SignOn.inspectIssuers⟩,
    ⟨"error_response", SignOn.inspectError⟩,
    ⟨"bearer_confirmation", SignOn.inspectSuccess fun r => stop (SignOn.confirmationFault? r)⟩,
    ⟨"bearer_statements", SignOn.inspectSuccess fun r => stop (SignOn.authenticationFault? r)⟩,
    ⟨"audience_restriction", SignOn.inspectSuccess fun r => stop (SignOn.audienceFault? r)⟩,
    ⟨"post_signature", SignOn.inspectSuccess fun r => stop (SignOn.signatureFault? r)⟩,
    ⟨"logout_request", Logout.inspectProfile "LogoutRequest" "Logout Request"
      .profiles_4_4_4_1_b .profiles_4_4_4_1_a⟩,
    ⟨"logout_response", Logout.inspectProfile "LogoutResponse" "Logout Response"
      .profiles_4_4_4_2_b .profiles_4_4_4_2_a⟩ ]

/-- The rules for redirects as steps. -/
def redirect : List Inspector :=
  [ ⟨"redirect_status", Transport.inspectRedirectStatus⟩,
    ⟨"redirect_relay_state", Transport.inspectRedirectRelayState⟩,
    ⟨"redirect_encoding", Transport.inspectRedirectEncoding⟩,
    ⟨"redirect_signature", Transport.inspectRedirectSignature⟩,
    ⟨"redirect_destination", Transport.inspectRedirectDestination⟩ ]

/-- The rules for forms as steps. -/
def post : List Inspector :=
  [ ⟨"post_status", Transport.inspectPostStatus⟩,
    ⟨"post_relay_state", Transport.inspectPostRelayState⟩,
    ⟨"post_destination", Transport.inspectPostDestination⟩ ]

/-- Every rule about requests and responses is carried by its step. -/
theorem carries_protocol : List.Forall₂ Carries protocol RuleGroup.protocol.rules :=
  .cons ⟨rfl, StatusResponse.carries_inspectHead⟩ <|
  .cons ⟨rfl, StatusResponse.carries_inspectStatus⟩ <|
  .cons ⟨rfl, StatusResponse.carries_inspectSignOn⟩ <|
  .cons ⟨rfl, Logout.carries_inspectRequest⟩ .nil

/-- Every rule about sign-on and logout is carried by its step. -/
theorem carries_profile : List.Forall₂ Carries profile RuleGroup.profile.rules :=
  .cons ⟨rfl, SignOn.carries_inspectBinding⟩ <|
  .cons ⟨rfl, SignOn.carries_inspectSuccess SignOn.carries_inspectIssuers⟩ <|
  .cons ⟨rfl, SignOn.carries_inspectError⟩ <|
  .cons ⟨rfl, SignOn.carries_inspectSuccess fun _ => carries_stop _⟩ <|
  .cons ⟨rfl, SignOn.carries_inspectSuccess fun _ => carries_stop _⟩ <|
  .cons ⟨rfl, SignOn.carries_inspectSuccess fun _ => carries_stop _⟩ <|
  .cons ⟨rfl, SignOn.carries_inspectSuccess fun _ => carries_stop _⟩ <|
  .cons ⟨rfl, Logout.carries_inspectProfile _ _ _ _⟩ <|
  .cons ⟨rfl, Logout.carries_inspectProfile _ _ _ _⟩ .nil

/-- Every rule for redirects is carried by its step. -/
theorem carries_redirect : List.Forall₂ Carries redirect (RuleGroup.binding .redirect).rules :=
  .cons ⟨rfl, Transport.carries_inspectRedirectStatus⟩ <|
  .cons ⟨rfl, Transport.carries_inspectRedirectRelayState⟩ <|
  .cons ⟨rfl, Transport.carries_inspectRedirectEncoding⟩ <|
  .cons ⟨rfl, Transport.carries_inspectRedirectSignature⟩ <|
  .cons ⟨rfl, Transport.carries_inspectRedirectDestination⟩ .nil

/-- Every rule for forms is carried by its step. -/
theorem carries_post : List.Forall₂ Carries post (RuleGroup.binding .post).rules :=
  .cons ⟨rfl, Transport.carries_inspectPostStatus⟩ <|
  .cons ⟨rfl, Transport.carries_inspectPostRelayState⟩ <|
  .cons ⟨rfl, Transport.carries_inspectPostDestination⟩ .nil

end Inspector

end SamlConformance
