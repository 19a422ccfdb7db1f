import SamlConformance.Rule.Groups

/-!
# What the Sign-On Profile Accepts

Seven rules look at a response, and most of them at some of its assertions only: at those
that mere possession confirms. Whether one such assertion has to be as demanded, or each of
them, or even each assertion, differs from rule to rule, and so does whether the first of
several elements counts or any of them. Here all of it is put into one list of conditions
(`SignsOn`), in which every quantifier is visible; the group has nothing to object to if and
only if the list is met.

The rules look for something to object to, with `any`, `find?` and `findSome?`, so each rule
is turned around on its own, and the group is silent if all its rules are. The two rules
about logout do not speak about responses.

## Main definitions

* `IssuedBy`: An element names the provider as its issuer.
* `IsPossession`, `Possessed`: Confirmations by mere possession, and assertions with one.
* `SignOn.Confirms`, `SignOn.RestrictedTo`: What confirmations and conditions have to say.
* `SignOn.SignsOn`: The conditions under which a response signs on.

## Theorems

* `issuerFault?_eq_none_iff`, `SignOn.isConfirmed_iff`, `SignOn.authenticationFault?_eq_none_iff`,
  `SignOn.audienceFault?_eq_none_iff`: What single checks accept.
* `SignOn.run_eq_nil_iff_of_success`, `SignOn.run_eq_nil_iff_of_error`: What the group accepts.
* `SignOn.run_redirected`: Responses are never redirected.
* `SignOn.profile_accepts`: All of it for one response.
-/

namespace SamlConformance

open Xml (Element)

/-- The element names one issuer, which is the provider, in the format of entities if it
gives one. -/
def IssuedBy (e : Element) (m : IdpMetadata) : Prop :=
  ∃ issuer, e.childrenNamed Saml.assertionNs "Issuer" = [issuer] ∧ issuer.text = m.entityId ∧
    ∀ format, issuer.attribute? "Format" = some format → format = Saml.NameIdFormat.entity.uri

/-- The element is a confirmation by mere possession in the first subject of an assertion. -/
def IsPossession (assertion confirmation : Element) : Prop :=
  ∃ subject, assertion.child? Saml.assertionNs "Subject" = some subject ∧
    confirmation ∈ subject.childrenNamed Saml.assertionNs "SubjectConfirmation" ∧
    confirmation.attribute? "Method" = some Saml.bearerMethod

/-- Mere possession confirms the assertion. -/
def Possessed (assertion : Element) : Prop :=
  ∃ confirmation, IsPossession assertion confirmation

namespace SignOn

/-- The data confirm the subject for a request, now and not only from some time on. -/
structure Confirms (request : Request) (data : Element) : Prop where
  /-- The receiver is the one that asked. -/
  recipient : data.attribute? "Recipient" = some request.acsUrl
  /-- The request is answered. -/
  inResponseTo : data.attribute? "InResponseTo" = some request.id
  /-- There is an end. -/
  ends : (data.attribute? "NotOnOrAfter").isSome
  /-- There is no beginning. -/
  begun : data.attribute? "NotBefore" = none

/-- The first conditions of an assertion restrict it once, to audiences that include a
service provider. -/
def RestrictedTo (sp : String) (assertion : Element) : Prop :=
  ∃ conditions restriction, assertion.child? Saml.assertionNs "Conditions" = some conditions ∧
    conditions.childrenNamed Saml.assertionNs "AudienceRestriction" = [restriction] ∧
    ∃ audience ∈ restriction.childrenNamed Saml.assertionNs "Audience", audience.text = sp

/-- A response in a form signs on. -/
structure SignsOn (r : Reply) : Prop where
  /-- A signed response is issued by the provider. -/
  issued : r.root.hasChild Saml.signatureNs "Signature" = true → IssuedBy r.root r.metadata
  /-- There are assertions. -/
  asserted : ∃ a, a ∈ Saml.assertions r.root
  /-- All of them are issued by the provider. -/
  assertionsIssued : ∀ a ∈ Saml.assertions r.root, IssuedBy a r.metadata
  /-- One of them is confirmed for the request by mere possession. -/
  confirmed : ∃ a ∈ Saml.assertions r.root, ∃ c, IsPossession a c ∧
    ∃ data ∈ c.childrenNamed Saml.assertionNs "SubjectConfirmationData", Confirms r.request data
  /-- One that mere possession confirms says how the subject was identified. -/
  authenticated : ∃ a ∈ Saml.assertions r.root, Possessed a ∧
    ∃ s, s ∈ a.childrenNamed Saml.assertionNs "AuthnStatement"
  /-- Where there is a logout, all such statements name the session. -/
  indexed : r.metadata.supportsLogout = true → ∀ a ∈ Saml.assertions r.root, Possessed a →
    ∀ s ∈ a.childrenNamed Saml.assertionNs "AuthnStatement", (s.attribute? "SessionIndex").isSome
  /-- All that mere possession confirms are for the service provider, if it is known. -/
  restricted : ∀ sp, r.request.spEntityId = some sp →
    ∀ a ∈ Saml.assertions r.root, Possessed a → RestrictedTo sp a
  /-- The response is signed, or every assertion is. -/
  signed : r.root.hasChild Saml.signatureNs "Signature" = true ∨
    ∀ a ∈ Saml.assertions r.root, a.hasChild Saml.signatureNs "Signature" = true

end SignOn

/-- The check of issuers accepts those that are the provider. -/
theorem issuerFault?_eq_none_iff (e : Element) (c : Clause) (m : IdpMetadata) :
    issuerFault? e c m = none ↔ IssuedBy e m := by
  have hname : ∀ issuer, issuerNameFault? e issuer c m = none ↔ issuer.text = m.entityId ∧
      ∀ format, issuer.attribute? "Format" = some format →
        format = Saml.NameIdFormat.entity.uri := by
    intro issuer
    unfold issuerNameFault?
    by_cases htext : issuer.text = m.entityId
    · simp only [htext, ne_eq, not_true_eq_false, if_false, true_and]
      cases issuer.attribute? "Format" with
      | none => simp only [reduceCtorEq, false_implies, implies_true]
      | some format => simp only [ite_eq_left_iff, reduceCtorEq, imp_false, Decidable.not_not,
          Option.some.injEq, forall_eq']
    · simp only [ne_eq, htext, not_false_eq_true, if_true, reduceCtorEq, false_and]
  unfold issuerFault? IssuedBy Saml.issuers
  split
  · rename_i issuer hissuer
    rw [hname issuer, hissuer]
    simp only [List.cons.injEq, and_true, exists_eq_left']
  · rename_i hmany
    refine iff_of_false (Option.some_ne_none _) ?_
    rintro ⟨issuer, hissuer, -⟩
    exact hmany issuer hissuer

theorem mem_bearerConfirmations_iff (a c : Element) :
    c ∈ Saml.bearerConfirmations a ↔ IsPossession a c := by
  unfold Saml.bearerConfirmations IsPossession
  cases a.child? Saml.assertionNs "Subject" with
  | none => simp only [List.not_mem_nil, reduceCtorEq, false_and, exists_false]
  | some subject => simp only [List.mem_filter, beq_iff_eq, Option.some.injEq, exists_eq_left']

/-- The assertions that mere possession confirms are told by having such a confirmation. -/
theorem mem_bearerAssertions_iff (root a : Element) :
    a ∈ Saml.bearerAssertions root ↔ a ∈ Saml.assertions root ∧ Possessed a := by
  have hsome : (Saml.bearerConfirmations a).isEmpty = false ↔ Possessed a := by
    simp only [Possessed, ← mem_bearerConfirmations_iff]
    exact List.isEmpty_eq_false_iff_exists_mem
  rw [Saml.bearerAssertions, List.mem_filter, Bool.not_eq_true', hsome]

namespace SignOn

variable (r : Reply)

theorem confirms_iff (request : Request) (data : Element) :
    confirms request data = true ↔ Confirms request data := by
  rw [confirms]
  simp only [Bool.and_eq_true, beq_iff_eq, Option.isNone_iff_eq_none]
  exact ⟨fun ⟨⟨⟨hto, hends⟩, hbegun⟩, hfor⟩ => ⟨hto, hfor, hends, hbegun⟩,
    fun h => ⟨⟨⟨h.recipient, h.ends⟩, h.begun⟩, h.inResponseTo⟩⟩

/-- One confirmation of one assertion is enough. -/
theorem isConfirmed_iff (root : Element) (request : Request) :
    isConfirmed root request = true ↔ ∃ a ∈ Saml.assertions root, ∃ c, IsPossession a c ∧
      ∃ data ∈ c.childrenNamed Saml.assertionNs "SubjectConfirmationData",
        Confirms request data := by
  rw [isConfirmed, List.any_flatMap, List.any_eq_true]
  simp only [List.any_eq_true, confirms_iff, mem_bearerAssertions_iff,
    mem_bearerConfirmations_iff]
  constructor
  · rintro ⟨a, ⟨ha, -⟩, c, hc, hdata⟩
    exact ⟨a, ha, c, hc, hdata⟩
  · rintro ⟨a, ha, c, hc, hdata⟩
    exact ⟨a, ⟨ha, c, hc⟩, c, hc, hdata⟩

theorem confirmationFault?_eq_none_iff :
    confirmationFault? r = none ↔ ∃ a ∈ Saml.assertions r.root, ∃ c, IsPossession a c ∧
      ∃ data ∈ c.childrenNamed Saml.assertionNs "SubjectConfirmationData",
        Confirms r.request data := by
  rw [← isConfirmed_iff, confirmationFault?]
  by_cases hnone : (Saml.bearerAssertions r.root).isEmpty = true
  · -- Where nothing is possessed, nothing is confirmed.
    rw [if_pos hnone, isConfirmed, List.isEmpty_iff.mp hnone]
    exact iff_of_false (Option.some_ne_none _) Bool.false_ne_true
  · rw [if_neg hnone]
    simp only [ite_eq_left_iff, reduceCtorEq, imp_false, Decidable.not_not]

theorem mem_authentications_iff (root s : Element) :
    s ∈ authentications root ↔ ∃ a ∈ Saml.assertions root, Possessed a ∧
      s ∈ a.childrenNamed Saml.assertionNs "AuthnStatement" := by
  simp only [authentications, List.mem_flatMap, mem_bearerAssertions_iff, and_assoc]

/-- There has to be one statement, and where there is a logout all of them count. -/
theorem authenticationFault?_eq_none_iff :
    authenticationFault? r = none ↔
      (∃ a ∈ Saml.assertions r.root, Possessed a ∧
        ∃ s, s ∈ a.childrenNamed Saml.assertionNs "AuthnStatement") ∧
      (r.metadata.supportsLogout = true → ∀ a ∈ Saml.assertions r.root, Possessed a →
        ∀ s ∈ a.childrenNamed Saml.assertionNs "AuthnStatement",
          (s.attribute? "SessionIndex").isSome) := by
  have hsome : (∃ a ∈ Saml.assertions r.root, Possessed a ∧
      ∃ s, s ∈ a.childrenNamed Saml.assertionNs "AuthnStatement") ↔
      ¬ (authentications r.root).isEmpty = true := by
    rw [Bool.not_eq_true, List.isEmpty_eq_false_iff_exists_mem]
    simp only [mem_authentications_iff]
    exact ⟨fun ⟨a, ha, hpossessed, s, hs⟩ => ⟨s, a, ha, hpossessed, hs⟩,
      fun ⟨s, a, ha, hpossessed, hs⟩ => ⟨a, ha, hpossessed, s, hs⟩⟩
  have hall : ((authentications r.root).find? fun s => (s.attribute? "SessionIndex").isNone) =
      none ↔ ∀ a ∈ Saml.assertions r.root, Possessed a →
        ∀ s ∈ a.childrenNamed Saml.assertionNs "AuthnStatement",
          (s.attribute? "SessionIndex").isSome := by
    rw [List.find?_eq_none]
    simp only [mem_authentications_iff, Bool.not_eq_true, Option.isNone_eq_false_iff]
    exact ⟨fun h a ha hpossessed s hs => h s ⟨a, ha, hpossessed, hs⟩,
      fun h s ⟨a, ha, hpossessed, hs⟩ => h a ha hpossessed s hs⟩
  rw [hsome, ← hall, authenticationFault?]
  by_cases hnone : (authentications r.root).isEmpty = true
  · rw [if_pos hnone]
    exact iff_of_false (Option.some_ne_none _) fun h => h.1 hnone
  · rw [if_neg hnone, and_iff_right hnone]
    by_cases hlogout : r.metadata.supportsLogout = true
    · rw [if_pos hlogout, imp_iff_right hlogout, Option.map_eq_none_iff]
    · rw [if_neg hlogout]
      exact iff_of_true rfl fun h => absurd h hlogout

theorem isRestrictedTo_iff (sp : String) (a : Element) :
    isRestrictedTo sp a = true ↔ RestrictedTo sp a := by
  unfold isRestrictedTo restrictions RestrictedTo
  cases a.child? Saml.assertionNs "Conditions" with
  | none => simp only [Bool.false_eq_true, reduceCtorEq, false_and, exists_false]
  | some conditions =>
      simp only [Option.some.injEq, exists_eq_left', exists_and_left]
      split
      · rename_i restriction hone
        simp only [hone, List.any_eq_true, beq_iff_eq, List.cons.injEq, and_true, exists_eq_left']
      · rename_i hmany
        refine iff_of_false Bool.false_ne_true ?_
        rintro ⟨restriction, hone, -⟩
        exact hmany restriction hone

/-- All assertions that mere possession confirms have to be for the service provider. -/
theorem audienceFault?_eq_none_iff :
    audienceFault? r = none ↔ ∀ sp, r.request.spEntityId = some sp →
      ∀ a ∈ Saml.assertions r.root, Possessed a → RestrictedTo sp a := by
  unfold audienceFault?
  cases r.request.spEntityId with
  | none => simp only [Option.bind_eq_bind, Option.bind_none, reduceCtorEq, false_implies,
      implies_true]
  | some sp =>
      have hfind : ((Saml.bearerAssertions r.root).find? fun a => !isRestrictedTo sp a) = none ↔
          ∀ a ∈ Saml.assertions r.root, Possessed a → RestrictedTo sp a := by
        rw [List.find?_eq_none]
        simp only [Bool.not_eq_true', Bool.not_eq_false, isRestrictedTo_iff,
          mem_bearerAssertions_iff, and_imp]
      simp only [Option.bind_eq_bind, Option.bind_some, Option.some.injEq, forall_eq']
      rw [← hfind]
      cases (Saml.bearerAssertions r.root).find? fun a => !isRestrictedTo sp a with
      | none => exact iff_of_true rfl rfl
      | some a => exact iff_of_false (Option.some_ne_none _) (Option.some_ne_none a)

theorem issuersFault?_eq_none_iff (hpost : r.message.received.binding = .post) :
    issuersFault? r = none ↔
      (r.root.hasChild Saml.signatureNs "Signature" = true → IssuedBy r.root r.metadata) ∧
      (∃ a, a ∈ Saml.assertions r.root) ∧ ∀ a ∈ Saml.assertions r.root, IssuedBy a r.metadata := by
  -- In a form no signature stands beside the document.
  have hsigned : r.isSigned = r.root.hasChild Saml.signatureNs "Signature" := by
    have hquery : r.message.hasQuerySignature = false := by
      rw [Message.hasQuerySignature, hpost]
      rfl
    rw [Reply.isSigned, hquery, Bool.or_false]
  unfold issuersFault?
  rw [hsigned, Option.or_eq_none_iff]
  refine and_congr ?_ ?_
  · by_cases h : r.root.hasChild Saml.signatureNs "Signature" = true
    · rw [if_pos h, imp_iff_right h, issuerFault?_eq_none_iff]
    · rw [if_neg h]
      exact iff_of_true rfl fun hs => absurd hs h
  · by_cases hnone : (Saml.assertions r.root).isEmpty = true
    · rw [if_pos hnone, List.isEmpty_iff.mp hnone]
      refine iff_of_false (Option.some_ne_none _) ?_
      rintro ⟨⟨a, ha⟩, -⟩
      exact List.not_mem_nil ha
    · rw [if_neg hnone, List.findSome?_eq_none_iff]
      have hsome := List.isEmpty_eq_false_iff_exists_mem.mp (Bool.eq_false_iff.mpr hnone)
      simp only [issuerFault?_eq_none_iff, and_iff_right hsome]

theorem signatureFault?_eq_none_iff (hpost : r.message.received.binding = .post) :
    signatureFault? r = none ↔ r.root.hasChild Saml.signatureNs "Signature" = true ∨
      ∀ a ∈ Saml.assertions r.root, a.hasChild Saml.signatureNs "Signature" = true := by
  have hbinding : (r.message.received.binding == Saml.Binding.post) = true := by rw [hpost]; rfl
  rw [signatureFault?, hbinding]
  simp only [Bool.true_and, Saml.hasSignature, ite_eq_right_iff, reduceCtorEq, imp_false,
    Bool.and_eq_true, Bool.not_eq_true', List.any_eq_true, not_and, not_exists, Bool.not_eq_false]
  rw [← Bool.not_eq_true]
  exact Decidable.or_iff_not_imp_left.symm

section

variable (hroot : r.root.tag.name.localName = "Response")

include hroot

theorem isResponse_of_localName : isResponse r.root = true :=
  beq_iff_eq.mpr hroot

/-- The rules about logout speak about other messages. -/
theorem logout_clean : ∀ rule ∈ Logout.profileRules, rule.check r = .clean := by
  have hother : ∀ name, name ≠ "Response" → r.root.is Saml.protocolNs name = false := by
    intro name hname
    rw [Element.is, Xml.QName.is, hroot, beq_false_of_ne (Ne.symm hname), Bool.false_and]
  simp only [Logout.profileRules, List.forall_mem_cons, Logout.checkProfile,
    hother "LogoutRequest" (by decide), hother "LogoutResponse" (by decide), Bool.not_false,
    if_true, true_and]
  exact List.forall_mem_nil _

/-- Responses are never redirected, whatever they say. -/
theorem run_redirected (hredirect : r.message.received.binding = .redirect) :
    RuleGroup.profile.run r = [.of .profiles_4_1_2_a
      "The <Response> cannot be sent using Redirect Binding."] := by
  have hfirst : checkBinding r = .fail (.of .profiles_4_1_2_a
      "The <Response> cannot be sent using Redirect Binding.") := by
    rw [checkBinding, isResponse_of_localName r hroot, hredirect]
    rfl
  have hrules : Rule.runAll RuleGroup.profile.rules r = (checkBinding r).andThen
      (Rule.runAll RuleGroup.profile.rules.tail r) := rfl
  rw [RuleGroup.run, hrules, hfirst]
  rfl

section

variable (hpost : r.message.received.binding = .post)

include hpost

/-- In a form the group is silent if the rules about responses are. -/
theorem run_eq_nil_iff_rules :
    RuleGroup.profile.run r = [] ↔
      (onSuccess issuersFault? r).violations = [] ∧ (checkError r).violations = [] ∧
      (onSuccess confirmationFault? r).violations = [] ∧
      (onSuccess authenticationFault? r).violations = [] ∧
      (onSuccess audienceFault? r).violations = [] ∧
      (onSuccess signatureFault? r).violations = [] := by
  have hlogout : ∀ rule ∈ Logout.profileRules, (rule.check r).violations = [] := by
    intro rule hrule
    rw [logout_clean r hroot rule hrule]
    rfl
  have hbinding : (checkBinding r).violations = [] := by
    rw [checkBinding, hpost, isResponse_of_localName r hroot]
    rfl
  rw [RuleGroup.run_eq_nil_iff, RuleGroup.profile, List.forall_mem_append, and_iff_left hlogout]
  simp only [rules, List.forall_mem_cons, hbinding, true_and]
  simp only [List.not_mem_nil, false_implies, implies_true, and_true]

/-- Unless it states an error, a response in a form is accepted if and only if it signs
on. -/
theorem run_eq_nil_iff_of_success (hstatus : Saml.statesError r.root = false) :
    RuleGroup.profile.run r = [] ↔ SignsOn r := by
  have hsuccess : isSuccessful r.root = true := by
    rw [isSuccessful, isResponse_of_localName r hroot, hstatus]
    rfl
  have hchecked : ∀ fault? : Reply → Option Violation,
      (onSuccess fault? r).violations = [] ↔ fault? r = none := by
    intro fault?
    rw [onSuccess, if_pos hsuccess]
    exact Option.toList_eq_nil_iff
  have herror : (checkError r).violations = [] := by
    rw [checkError, hstatus, Bool.and_false, if_neg Bool.false_ne_true]
    rfl
  rw [run_eq_nil_iff_rules r hroot hpost, hchecked, hchecked, hchecked, hchecked, hchecked,
    issuersFault?_eq_none_iff r hpost, confirmationFault?_eq_none_iff,
    authenticationFault?_eq_none_iff, audienceFault?_eq_none_iff,
    signatureFault?_eq_none_iff r hpost]
  constructor
  · rintro ⟨⟨hissued, hsome, hissuers⟩, -, hconfirmed, ⟨hstated, hindexed⟩, hrestricted, hsigned⟩
    exact ⟨hissued, hsome, hissuers, hconfirmed, hstated, hindexed, hrestricted, hsigned⟩
  · intro h
    exact ⟨⟨h.issued, h.asserted, h.assertionsIssued⟩, herror, h.confirmed,
      ⟨h.authenticated, h.indexed⟩, h.restricted, h.signed⟩

/-- One that states an error is accepted if and only if no assertion is anywhere in it. -/
theorem run_eq_nil_iff_of_error (hstatus : Saml.statesError r.root = true) :
    RuleGroup.profile.run r = [] ↔ Saml.assertionsBelow r.root = [] := by
  have hunsuccessful : ¬ isSuccessful r.root = true := by
    rw [isSuccessful, hstatus, Bool.not_true, Bool.and_false]
    exact Bool.false_ne_true
  have hpassed : ∀ fault? : Reply → Option Violation,
      (onSuccess fault? r).violations = [] := by
    intro fault?
    rw [onSuccess, if_neg hunsuccessful]
    rfl
  rw [run_eq_nil_iff_rules r hroot hpost]
  simp only [hpassed, true_and, and_true]
  rw [checkError, isResponse_of_localName r hroot, hstatus, Bool.and_self, if_pos rfl]
  cases Saml.assertionsBelow r.root with
  | nil => exact iff_of_true rfl rfl
  | cons a as => exact iff_of_false (List.cons_ne_nil _ _) (List.cons_ne_nil a as)

end

/-- What the group of the profile makes of a response. By redirect it is refused, for this
alone. In a form, one without an error as its status is accepted if and only if it signs on,
and one with an error if and only if it holds no assertion. -/
theorem profile_accepts :
    (r.message.received.binding = .redirect →
      ∃ v, RuleGroup.profile.run r = [v] ∧ v.clauses = [.profiles_4_1_2_a]) ∧
    (r.message.received.binding = .post →
      (Saml.topStatus? r.root = none ∨
        Saml.topStatus? r.root = some Saml.StatusCode.success.uri →
        (RuleGroup.profile.run r = [] ↔ SignsOn r)) ∧
      (∀ code, Saml.topStatus? r.root = some code → code ≠ Saml.StatusCode.success.uri →
        (RuleGroup.profile.run r = [] ↔
          ∀ e ∈ r.root.descendants, ¬ e.is Saml.assertionNs "Assertion" = true))) := by
  refine ⟨fun hredirect => ⟨_, run_redirected r hroot hredirect, rfl⟩, fun hpost => ⟨?_, ?_⟩⟩
  · intro hstatus
    refine run_eq_nil_iff_of_success r hroot hpost ?_
    rw [Saml.statesError]
    rcases hstatus with hnone | hsuccess
    · rw [hnone]
      rfl
    · rw [hsuccess, Option.any_some, bne_self_eq_false]
  · intro code hcode hne
    have hstatus : Saml.statesError r.root = true := by
      rw [Saml.statesError, hcode, Option.any_some, bne_iff_ne]
      exact hne
    rw [run_eq_nil_iff_of_error r hroot hpost hstatus, Saml.assertionsBelow,
      Element.descendantsNamed, List.filter_eq_nil_iff]

end

/-- A response with two signed assertions, of which one is possessed. It is for this service
provider, and the other one is for nobody. -/
def possessedResponse : String :=
  "<p:Response xmlns:p=\"urn:oasis:names:tc:SAML:2.0:protocol\"
    xmlns=\"urn:oasis:names:tc:SAML:2.0:assertion\" xmlns:d=\"http://www.w3.org/2000/09/xmldsig#\"
    ><Assertion><Issuer>idp</Issuer><d:Signature/></Assertion><Assertion><Issuer>idp</Issuer
    ><d:Signature/><Subject><SubjectConfirmation Method=\"urn:oasis:names:tc:SAML:2.0:cm:bearer\"
    ><SubjectConfirmationData Recipient=\"https://sp\" InResponseTo=\"_0\" NotOnOrAfter=\"\"
    /></SubjectConfirmation></Subject><Conditions><AudienceRestriction><Audience>other</Audience
    ><Audience>sp</Audience></AudienceRestriction></Conditions><AuthnStatement SessionIndex=\"1\"
    /></Assertion></p:Response>"

/-- A message with a given document for the service provider `sp`, from a provider that takes
logout requests. -/
def replyOn (binding : Saml.Binding) (xml : String) (root : Element) : Reply where
  message := ⟨⟨binding, 200, [], false⟩, .response, xml, root, []⟩
  request := { id := "_0", acsUrl := "https://sp", spEntityId := some "sp" }
  metadata := { entityId := "idp", logout := [⟨.post, "https://idp/logout"⟩] }

/-- The response is accepted in a form, and so signs on; by redirect it is refused. -/
theorem profile_accepts_possessedResponse :
    ∃ root, Xml.parse possessedResponse = .ok root ∧ root.tag.name.localName = "Response" ∧
      RuleGroup.profile.run (replyOn .post possessedResponse root) = [] ∧
      SignsOn (replyOn .post possessedResponse root) ∧
      ∃ v, RuleGroup.profile.run (replyOn .redirect possessedResponse root) = [v] := by
  obtain ⟨root, hparse, hroot, hstatus, hsilent⟩ : ∃ root, Xml.parse possessedResponse = .ok root ∧
      root.tag.name.localName = "Response" ∧ Saml.topStatus? root = none ∧
      RuleGroup.profile.run (replyOn .post possessedResponse root) = [] := by
    refine Xml.exists_parse_eq_ok _ _ ?_
    rw [possessedResponse, Xml.parse_ofList]
    decide +kernel
  have hform := (profile_accepts (replyOn .post possessedResponse root) hroot).2 rfl
  obtain ⟨v, hrun, -⟩ := (profile_accepts (replyOn .redirect possessedResponse root) hroot).1 rfl
  exact ⟨root, hparse, hroot, hsilent, (hform.1 (Or.inl hstatus)).mp hsilent, v, hrun⟩

end SignOn

end SamlConformance
