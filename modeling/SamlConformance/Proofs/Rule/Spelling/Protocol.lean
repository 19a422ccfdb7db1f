import SamlConformance.Proofs.Rule.Spelling.Core

/-!
# The Other Rules Ignore Spelling

The rules about messages as a whole: of the protocol, of the profiles and of the bindings.
They ask for parts of the document element, which are the same in replies that are alike,
and for facts about the transport and the request, which do not depend on the document at
all. No field is asked for whose content is the document.

## Theorems

* `StatusResponse.ignoresSpelling`, `Logout.protocolRule_ignoresSpelling`,
  `SignOn.ignoresSpelling`, `Logout.profileRules_ignoreSpelling`,
  `Transport.redirectRules_ignoreSpelling`, `Transport.postRules_ignoreSpelling`: The
  rules of the modules.
* `RuleGroup.groups_ignoreSpelling`: All rules of all groups.
-/

namespace SamlConformance

open Xml (Element)

namespace Saml

theorem topStatus?_alike (a b : Element) (h : a.Alike b) : topStatus? a = topStatus? b := by
  rw [topStatus?, topStatus?]
  obtain ⟨hs, ht⟩ | ⟨s, t, hs, ht, hst⟩ := h.child?_cases protocolNs "Status"
  · rw [hs, ht]
  simp only [hs, ht, Option.bind_eq_bind, Option.bind_some]
  obtain ⟨hc, hd⟩ | ⟨c, d, hc, hd, hcd⟩ := hst.child?_cases protocolNs "StatusCode"
  · rw [hc, hd]
  · rw [hc, hd, Option.bind_some, Option.bind_some, hcd.attribute?]

theorem statesSuccess_alike (a b : Element) (h : a.Alike b) :
    statesSuccess a = statesSuccess b := by
  rw [statesSuccess, statesSuccess, topStatus?_alike a b h]

theorem statesError_alike (a b : Element) (h : a.Alike b) : statesError a = statesError b := by
  rw [statesError, statesError, topStatus?_alike a b h]

theorem isStatusResponse_alike (a b : Element) (h : a.Alike b) :
    isStatusResponse a = isStatusResponse b := by
  rw [isStatusResponse, isStatusResponse, h.uri, h.localName]

theorem assertions_alike (a b : Element) (h : a.Alike b) :
    List.Forall₂ Element.Alike (assertions a) (assertions b) :=
  h.childrenNamed assertionNs "Assertion"

theorem bearerConfirmations_alike (a b : Element) (h : a.Alike b) :
    List.Forall₂ Element.Alike (bearerConfirmations a) (bearerConfirmations b) := by
  rw [bearerConfirmations, bearerConfirmations]
  obtain ⟨hs, ht⟩ | ⟨s, t, hs, ht, hst⟩ := h.child?_cases assertionNs "Subject"
  · rw [hs, ht]
    exact .nil
  · rw [hs, ht]
    exact Xml.filter_alike (hst.childrenNamed assertionNs "SubjectConfirmation")
      fun _ _ hc => by rw [hc.attribute?]

theorem bearerAssertions_alike (a b : Element) (h : a.Alike b) :
    List.Forall₂ Element.Alike (bearerAssertions a) (bearerAssertions b) := by
  refine Xml.filter_alike (assertions_alike a b h) ?_
  intro c d hcd
  rw [Xml.isEmpty_eq_of_alike (bearerConfirmations_alike c d hcd)]

end Saml

namespace StatusResponse

theorem checkHead_ignoresSpelling (name : String) : Rule.IgnoresSpelling ⟨name, checkHead⟩ := by
  intro r r' h
  simp only [checkHead, issuedFindings, destinationFindings, h.root.attribute?, h.root.localName,
    Saml.isStatusResponse_alike _ _ h.root, h.request]
  split
  · rfl
  · split <;> rfl

theorem statusValueFindings_alike (a b : Element) (h : a.Alike b) :
    statusValueFindings a = statusValueFindings b := by
  refine congrArg₂ (· ++ ·) ?_ ?_
  · exact Xml.flatMap_eq_of_alike (h.descendantsNamed Saml.protocolNs "StatusCode")
      fun _ _ hc => by rw [hc.attribute?]
  · exact Xml.flatMap_eq_of_alike (h.childrenNamed Saml.protocolNs "StatusMessage")
      fun _ _ hc => by rw [hc.text]

theorem topStatusFindings_alike (a b status status' : Element) (h : a.Alike b) :
    (topStatusFindings a status).map Violation.bare =
      (topStatusFindings b status').map Violation.bare := by
  simp only [topStatusFindings, Saml.topStatus?_alike a b h]
  split <;> rfl

theorem checkStatus_ignoresSpelling (name : String) :
    Rule.IgnoresSpelling ⟨name, checkStatus⟩ := by
  intro r r' h
  simp only [checkStatus, h.root.localName, Saml.isStatusResponse_alike _ _ h.root]
  split
  · rfl
  obtain ⟨hs, ht⟩ | ⟨s, t, hs, ht, hst⟩ := h.root.child?_cases Saml.protocolNs "Status"
  · rw [hs, ht]
    rfl
  · simp only [hs, ht]
    rw [Outcome.bare_report, Outcome.bare_report, List.map_append, List.map_append,
      topStatusFindings_alike _ _ s t h.root, statusValueFindings_alike s t hst]

theorem isFor_alike (sp : String) (a b : Element) (h : a.Alike b) : isFor sp a = isFor sp b :=
  Xml.any_eq_of_alike (h.descendantsNamed Saml.assertionNs "AudienceRestriction")
    fun _ _ hrestriction => Xml.any_eq_of_alike
      (hrestriction.childrenNamed Saml.assertionNs "Audience") fun _ _ hc => by rw [hc.text]

theorem noAssertion?_alike (a b : Element) (h : a.Alike b) :
    (noAssertion? a).map Violation.bare = (noAssertion? b).map Violation.bare := by
  simp only [noAssertion?, Xml.isEmpty_eq_of_alike (Saml.assertions_alike a b h), h.hasChild]
  split <;> rfl

theorem noSubject?_alike (a b : Element) (h : a.Alike b) :
    (noSubject? a).map Violation.bare = (noSubject? b).map Violation.bare := by
  refine map_bare_shown_of_alike (Xml.find?_alike (h.descendantsNamed _ _) ?_) _
  intro c d hcd
  rw [Assertion.hasSubject_alike c d hcd]

theorem noAuthentication?_alike (a b : Element) (h : a.Alike b) :
    (noAuthentication? a).map Violation.bare = (noAuthentication? b).map Violation.bare := by
  have hassertions := Saml.assertions_alike a b h
  have hall : ((Saml.assertions a).all fun c => !c.hasChild Saml.assertionNs "AuthnStatement") =
      (Saml.assertions b).all fun c => !c.hasChild Saml.assertionNs "AuthnStatement" := by
    rw [List.all_eq_not_any_not, List.all_eq_not_any_not]
    exact congrArg not (Xml.any_eq_of_alike hassertions fun _ _ hc => by rw [hc.hasChild])
  simp only [noAuthentication?, Xml.isEmpty_eq_of_alike hassertions, hall]
  split <;> rfl

theorem wrongAudience?_alike (a b : Element) (h : a.Alike b) (sp : Option String) :
    (wrongAudience? a sp).map Violation.bare = (wrongAudience? b sp).map Violation.bare := by
  cases sp with
  | none => rfl
  | some sp =>
      have hfound : Option.Rel Element.Alike ((Saml.assertions a).find? fun c => !isFor sp c)
          ((Saml.assertions b).find? fun c => !isFor sp c) :=
        Xml.find?_alike (Saml.assertions_alike a b h) fun c d hcd => by rw [isFor_alike sp c d hcd]
      simp only [wrongAudience?, Option.bind_eq_bind, Option.bind_some]
      exact map_bare_bind_of_alike hfound fun _ _ _ => rfl

theorem checkSignOn_ignoresSpelling (name : String) :
    Rule.IgnoresSpelling ⟨name, checkSignOn⟩ := by
  intro r r' h
  simp only [checkSignOn]
  rw [h.root.is, Saml.statesSuccess_alike _ _ h.root]
  split
  · simp only [Outcome.bare_ofFailure, Option.map_or, noAssertion?_alike _ _ h.root,
      noSubject?_alike _ _ h.root, noAuthentication?_alike _ _ h.root,
      wrongAudience?_alike _ _ h.root, h.request]
  · rfl

theorem ignoresSpelling : ∀ rule ∈ rules, rule.IgnoresSpelling :=
  List.forall_mem_cons.mpr ⟨checkHead_ignoresSpelling _, List.forall_mem_cons.mpr
    ⟨checkStatus_ignoresSpelling _, List.forall_mem_singleton.mpr
      (checkSignOn_ignoresSpelling _)⟩⟩

end StatusResponse

theorem issuerNameFault?_alike (e f issuer issuer' : Element) (c : Clause) (m : IdpMetadata)
    (h : e.Alike f) (hissuer : issuer.Alike issuer') :
    (issuerNameFault? e issuer c m).map Violation.bare =
      (issuerNameFault? f issuer' c m).map Violation.bare := by
  simp only [issuerNameFault?, h.localName, hissuer.text, hissuer.attribute?]
  split
  · rfl
  · split
    · rfl
    · split <;> rfl

theorem issuerFault?_alike (e f : Element) (c : Clause) (m : IdpMetadata) (h : e.Alike f) :
    (issuerFault? e c m).map Violation.bare = (issuerFault? f c m).map Violation.bare := by
  have hissuers := h.childrenNamed Saml.assertionNs "Issuer"
  unfold issuerFault? Saml.issuers
  rw [h.localName]
  generalize e.childrenNamed Saml.assertionNs "Issuer" = es at hissuers
  generalize f.childrenNamed Saml.assertionNs "Issuer" = fs at hissuers
  -- A single issuer is looked at; of more of them only the number is shown.
  cases hissuers with
  | nil => rfl
  | cons hissuer hrest =>
      cases hrest with
      | nil => exact issuerNameFault?_alike e f _ _ c m h hissuer
      | cons _ hmore =>
          simp only [List.length_cons, hmore.length_eq]
          rfl

namespace Logout

theorem protocolRule_ignoresSpelling : protocolRule.IgnoresSpelling := by
  intro r r' h
  have hchild : r.root.hasChild Saml.assertionNs = r'.root.hasChild Saml.assertionNs :=
    funext fun name => h.root.hasChild Saml.assertionNs name
  simp only [protocolRule, checkRequest, reasonFindings, namesSubject, h.root.is,
    h.root.attribute?, hchild]
  split
  · rfl
  · rw [Outcome.bare_andThen, Outcome.bare_andThen, Outcome.bare_failIf, Outcome.bare_failIf]
    rfl

theorem checkProfile_ignoresSpelling (rule name title : String) (signed issued : Clause) :
    Rule.IgnoresSpelling ⟨rule, checkProfile name title signed issued⟩ := by
  intro r r' h
  simp only [checkProfile, h.root.is, h.isSigned]
  split
  · rfl
  · split
    · rfl
    · rw [Outcome.bare_ofFailure, Outcome.bare_ofFailure, h.metadata,
        issuerFault?_alike _ _ issued _ h.root]

theorem profileRules_ignoreSpelling : ∀ rule ∈ profileRules, rule.IgnoresSpelling :=
  List.forall_mem_cons.mpr ⟨checkProfile_ignoresSpelling _ _ _ _ _,
    List.forall_mem_singleton.mpr (checkProfile_ignoresSpelling _ _ _ _ _)⟩

end Logout

namespace SignOn

theorem isResponse_alike (a b : Element) (h : a.Alike b) : isResponse a = isResponse b := by
  rw [isResponse, isResponse, h.localName]

/-- A check of responses that do not state an error ignores spelling if what it looks for
in them does. -/
theorem onSuccess_ignoresSpelling (name : String) (fault? : Reply → Option Violation)
    (hf : ∀ r r' : Reply, r.Alike r' →
      (fault? r).map Violation.bare = (fault? r').map Violation.bare) :
    Rule.IgnoresSpelling ⟨name, onSuccess fault?⟩ := by
  intro r r' h
  have hsuccessful : isSuccessful r.root = isSuccessful r'.root := by
    rw [isSuccessful, isSuccessful, isResponse_alike _ _ h.root, Saml.statesError_alike _ _ h.root]
  simp only [onSuccess]
  rw [hsuccessful]
  split
  · exact congrArg Outcome.ofFailure (hf r r' h)
  · rfl

theorem checkBinding_ignoresSpelling (name : String) :
    Rule.IgnoresSpelling ⟨name, checkBinding⟩ := by
  intro r r' h
  simp only [checkBinding, isResponse_alike _ _ h.root, h.binding]

theorem checkError_ignoresSpelling (name : String) :
    Rule.IgnoresSpelling ⟨name, checkError⟩ := by
  intro r r' h
  simp only [checkError]
  rw [isResponse_alike _ _ h.root, Saml.statesError_alike _ _ h.root]
  split
  · refine congrArg Outcome.ofFailure (map_bare_shown_of_alike ?_ _)
    exact Xml.head?_alike (h.root.descendantsNamed _ _)
  · rfl

theorem issuersFault?_alike (r r' : Reply) (h : r.Alike r') :
    (issuersFault? r).map Violation.bare = (issuersFault? r').map Violation.bare := by
  have hassertions := Saml.assertions_alike _ _ h.root
  have hown : (if r.isSigned then issuerFault? r.root .profiles_4_1_4_2_a r.metadata
      else none).map Violation.bare = (if r'.isSigned then
        issuerFault? r'.root .profiles_4_1_4_2_a r'.metadata else none).map Violation.bare := by
    rw [h.isSigned, h.metadata]
    split
    · exact issuerFault?_alike _ _ _ _ h.root
    · rfl
  simp only [issuersFault?, Option.map_or]
  rw [hown, Xml.isEmpty_eq_of_alike hassertions]
  refine congrArg (Option.or _) ?_
  split
  · rfl
  · refine map_bare_findSome?_of_alike hassertions ?_
    intro a b hab
    rw [h.metadata, issuerFault?_alike a b _ _ hab]

theorem confirms_alike (request : Request) (a b : Element) (h : a.Alike b) :
    confirms request a = confirms request b := by
  simp only [confirms, h.attribute?]

theorem isConfirmed_alike (request : Request) (a b : Element) (h : a.Alike b) :
    isConfirmed a request = isConfirmed b request := by
  rw [isConfirmed, isConfirmed, List.any_flatMap, List.any_flatMap]
  refine Xml.any_eq_of_alike (Saml.bearerAssertions_alike a b h) ?_
  intro c d hcd
  refine Xml.any_eq_of_alike (Saml.bearerConfirmations_alike c d hcd) ?_
  intro e f hef
  exact Xml.any_eq_of_alike (hef.childrenNamed _ _) (confirms_alike request)

theorem confirmationFault?_alike (r r' : Reply) (h : r.Alike r') :
    (confirmationFault? r).map Violation.bare = (confirmationFault? r').map Violation.bare := by
  simp only [confirmationFault?, h.request,
    Xml.isEmpty_eq_of_alike (Saml.bearerAssertions_alike _ _ h.root),
    isConfirmed_alike _ _ _ h.root]
  split
  · rfl
  · split <;> rfl

theorem authentications_alike (a b : Element) (h : a.Alike b) :
    List.Forall₂ Element.Alike (authentications a) (authentications b) :=
  Xml.flatMap_alike (Saml.bearerAssertions_alike a b h) fun _ _ hc => hc.childrenNamed _ _

theorem authenticationFault?_alike (r r' : Reply) (h : r.Alike r') :
    (authenticationFault? r).map Violation.bare =
      (authenticationFault? r').map Violation.bare := by
  have hstatements := authentications_alike _ _ h.root
  simp only [authenticationFault?, h.metadata, Xml.isEmpty_eq_of_alike hstatements]
  split
  · rfl
  · split
    · refine map_bare_shown_of_alike (Xml.find?_alike hstatements ?_) _
      intro c d hcd
      rw [hcd.attribute?]
    · rfl

theorem restrictions_alike (a b : Element) (h : a.Alike b) :
    List.Forall₂ Element.Alike (restrictions a) (restrictions b) := by
  rw [restrictions, restrictions]
  obtain ⟨hs, ht⟩ | ⟨s, t, hs, ht, hst⟩ := h.child?_cases Saml.assertionNs "Conditions"
  · rw [hs, ht]
    exact .nil
  · rw [hs, ht]
    exact hst.childrenNamed Saml.assertionNs "AudienceRestriction"

theorem isRestrictedTo_alike (sp : String) (a b : Element) (h : a.Alike b) :
    isRestrictedTo sp a = isRestrictedTo sp b := by
  have hrestrictions := restrictions_alike a b h
  unfold isRestrictedTo
  generalize restrictions a = es at hrestrictions
  generalize restrictions b = fs at hrestrictions
  -- Only a single restriction can name the audience.
  cases hrestrictions with
  | nil => rfl
  | cons hrestriction hrest =>
      cases hrest with
      | nil =>
          exact Xml.any_eq_of_alike (hrestriction.childrenNamed _ _) fun _ _ hc => by rw [hc.text]
      | cons _ _ => rfl

theorem audienceFault?_alike (r r' : Reply) (h : r.Alike r') :
    (audienceFault? r).map Violation.bare = (audienceFault? r').map Violation.bare := by
  rw [audienceFault?, audienceFault?, h.request]
  cases r'.request.spEntityId with
  | none => rfl
  | some sp =>
      have hfound : Option.Rel Element.Alike
          ((Saml.bearerAssertions r.root).find? fun c => !isRestrictedTo sp c)
          ((Saml.bearerAssertions r'.root).find? fun c => !isRestrictedTo sp c) :=
        Xml.find?_alike (Saml.bearerAssertions_alike _ _ h.root)
          fun c d hcd => by rw [isRestrictedTo_alike sp c d hcd]
      simp only [Option.bind_eq_bind, Option.bind_some]
      exact map_bare_bind_of_alike hfound fun _ _ _ => rfl

theorem signatureFault?_alike (r r' : Reply) (h : r.Alike r') :
    (signatureFault? r).map Violation.bare = (signatureFault? r').map Violation.bare := by
  have hsignature : ∀ a b : Element, a.Alike b → Saml.hasSignature a = Saml.hasSignature b :=
    fun _ _ hab => hab.hasChild Saml.signatureNs "Signature"
  have hany : ((Saml.assertions r.root).any fun a => !Saml.hasSignature a) =
      (Saml.assertions r'.root).any fun a => !Saml.hasSignature a :=
    Xml.any_eq_of_alike (Saml.assertions_alike _ _ h.root) fun a b hab => by
      rw [hsignature a b hab]
  simp only [signatureFault?]
  rw [h.binding, hany, hsignature _ _ h.root]
  split <;> rfl

theorem ignoresSpelling : ∀ rule ∈ rules, rule.IgnoresSpelling := by
  simp only [rules, List.forall_mem_cons, List.not_mem_nil, false_implies, implies_true, and_true]
  exact ⟨checkBinding_ignoresSpelling _, onSuccess_ignoresSpelling _ _ issuersFault?_alike,
    checkError_ignoresSpelling _, onSuccess_ignoresSpelling _ _ confirmationFault?_alike,
    onSuccess_ignoresSpelling _ _ authenticationFault?_alike,
    onSuccess_ignoresSpelling _ _ audienceFault?_alike,
    onSuccess_ignoresSpelling _ _ signatureFault?_alike⟩

end SignOn

namespace Transport

theorem destinationFindings_alike (r r' : Reply) (h : r.Alike r') (c : Clause) :
    (destinationFindings r c).map Violation.bare =
      (destinationFindings r' c).map Violation.bare := by
  simp only [destinationFindings, h.root.attribute?, h.request]
  split <;> rfl

theorem redirectRules_ignoreSpelling : ∀ rule ∈ redirectRules, rule.IgnoresSpelling := by
  simp only [redirectRules, List.forall_mem_cons, List.not_mem_nil, false_implies, implies_true,
    and_true]
  refine ⟨?_, ?_, ?_, ?_, ?_⟩
  · intro r r' h
    simp only [redirectStatus, h.status]
  · intro r r' h
    -- The relay state is no payload, whatever the kind of message.
    have hrelayState := h.get? .relayState (by cases r.message.kind <;> decide)
    simp only [redirectRelayState, hrelayState, h.given, h.request]
  · intro r r' h
    have hencoding := h.get? .encoding (by cases r.message.kind <;> decide)
    simp only [redirectEncoding, hencoding]
  · intro r r' h
    simp only [redirectSignature]
    obtain ⟨hs, ht⟩ | ⟨s, t, hs, ht, -⟩ := h.root.child?_cases Saml.signatureNs "Signature"
    · rw [hs, ht]
    · rw [hs, ht]
      rfl
  · intro r r' h
    simp only [redirectDestination, h.hasQuerySignature]
    split
    · exact congrArg Outcome.report (destinationFindings_alike r r' h _)
    · rfl

theorem postRules_ignoreSpelling : ∀ rule ∈ postRules, rule.IgnoresSpelling := by
  simp only [postRules, List.forall_mem_cons, List.not_mem_nil, false_implies, implies_true,
    and_true]
  refine ⟨?_, ?_, ?_⟩
  · intro r r' h
    simp only [postStatus, h.status]
  · intro r r' h
    have hrelayState := h.get? .relayState (by cases r.message.kind <;> decide)
    simp only [postRelayState, hrelayState, h.given, h.request]
  · intro r r' h
    simp only [postDestination, Xml.isEmpty_eq_of_alike (h.root.descendantsNamed _ _)]
    split
    · rfl
    · exact congrArg Outcome.report (destinationFindings_alike r r' h _)

end Transport

/-- All rules of all groups ignore spelling. -/
theorem RuleGroup.groups_ignoreSpelling (b : Saml.Binding) :
    ∀ g ∈ groups b, ∀ rule ∈ g.rules, rule.IgnoresSpelling := by
  simp only [groups, List.forall_mem_cons, List.not_mem_nil, false_implies, implies_true, and_true]
  refine ⟨core_ignoresSpelling, ?_, ?_, ?_⟩
  · exact List.forall_mem_append.mpr ⟨StatusResponse.ignoresSpelling,
      List.forall_mem_singleton.mpr Logout.protocolRule_ignoresSpelling⟩
  · exact List.forall_mem_append.mpr ⟨SignOn.ignoresSpelling, Logout.profileRules_ignoreSpelling⟩
  · cases b with
    | redirect => exact Transport.redirectRules_ignoreSpelling
    | post => exact Transport.postRules_ignoreSpelling

end SamlConformance
