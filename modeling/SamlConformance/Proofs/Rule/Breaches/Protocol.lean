import SamlConformance.Proofs.Rule.Breaches.Core

/-!
# What the Other Rules Can Breach

The clauses for the rules about messages as a whole. Where a function takes the clause it
breaches as an argument, as the checks of issuers and of addresses do, so does the lemma
about it, and the clause is looked up where the function is used.

The groups of the two bindings share functions but no clauses. Of the section of a binding
a group declares nothing but its own, which is all it breaches besides the clauses about
types; what was copied from one binding to the other would show here.

## Main definitions

* `Transport.relayStateClauses`: The clauses about relay states, by binding.

## Theorems

* `StatusResponse.onlyBreaches`, `Logout.protocolRule_onlyBreaches`, `SignOn.onlyBreaches`,
  `Logout.profileRules_onlyBreach`, `Transport.redirectRules_onlyBreach`,
  `Transport.postRules_onlyBreach`: The clauses of the modules.
* `RuleGroup.groups_onlyBreach`: What the rules of any group breach lies within the sections
  of the group, or is about types.
-/

namespace SamlConformance

open Xml (Element)

section

variable {cs : List Clause}

theorem onlyBreach_issuerNameFault? (e issuer : Element) {c : Clause} (m : IdpMetadata)
    (hc : c ∈ cs) : OnlyBreach (issuerNameFault? e issuer c m).toList cs := by
  unfold issuerNameFault?
  simp only
  split
  · exact OnlyBreach.shownAt (onlyBreach_of _ hc) issuer
  split
  · exact onlyBreach_nil
  split
  · exact onlyBreach_nil
  · exact OnlyBreach.shownAt (onlyBreach_of _ hc) issuer

theorem onlyBreach_issuerFault? (e : Element) {c : Clause} (m : IdpMetadata) (hc : c ∈ cs) :
    OnlyBreach (issuerFault? e c m).toList cs := by
  unfold issuerFault?
  split
  · exact onlyBreach_issuerNameFault? e _ m hc
  · exact OnlyBreach.shownAt (onlyBreach_of _ hc) e

end

namespace StatusResponse

/-- The clauses about the attributes of a response, and about the types of their values. -/
def headBreached : List Clause :=
  [.core_3_2_2_a, .core_3_2_2_b, .core_3_2_2_c, .core_3_2_2_d, .core_3_2_2_e, .core_1_3_2_a,
    .core_1_3_3_a]

/-- The clauses about its status. -/
def statusBreached : List Clause :=
  [.core_3_2_2_2_a, .core_1_3_1_a, .core_1_3_2_a]

/-- The clauses about what a sign-on is answered with. -/
def signOnBreached : List Clause :=
  [.core_3_4_a, .core_3_4_1_4_a, .core_3_4_1_4_c, .core_3_4_1_4_d, .core_3_4_1_4_e]

/-- All clauses about responses. -/
def breached : List Clause :=
  headBreached ++ statusBreached ++ signOnBreached

theorem onlyBreach_mismatchFindings {c : Clause} (property : String) (actual : Option String)
    (expected : String) (hc : c ∈ headBreached) :
    OnlyBreach (mismatchFindings c property actual expected) headBreached := by
  unfold mismatchFindings
  split
  · exact onlyBreach_nil
  · exact onlyBreach_of _ hc

theorem onlyBreach_issuedFindings (root : Element) :
    OnlyBreach (issuedFindings root) headBreached := by
  unfold issuedFindings
  split
  · exact Values.onlyBreach_timeFindings _ (by decide)
  · exact onlyBreach_of _ (by decide)

theorem onlyBreach_destinationFindings (root : Element) (acsUrl : String) :
    OnlyBreach (destinationFindings root acsUrl) headBreached := by
  unfold destinationFindings
  split
  · exact onlyBreach_nil
  · exact onlyBreach_append (Values.onlyBreach_uriFindings _ (by decide))
      (onlyBreach_mismatchFindings _ _ _ (by decide))

theorem onlyBreach_checkHead (r : Reply) : OnlyBreach (checkHead r).violations headBreached := by
  unfold checkHead
  simp only
  split
  · exact Outcome.onlyBreach_clean
  split
  · exact Outcome.onlyBreach_fail ((onlyBreach_of _ (by decide)).shownAt r.root)
  refine Outcome.onlyBreach_report
    (onlyBreach_append (onlyBreach_append (onlyBreach_append ?_ ?_) ?_) ?_)
  · exact onlyBreach_mismatchFindings _ _ _ (by decide)
  · exact onlyBreach_mismatchFindings _ _ _ (by decide)
  · exact onlyBreach_issuedFindings r.root
  · exact onlyBreach_destinationFindings r.root r.request.acsUrl

theorem onlyBreach_topStatusFindings (root status : Element) :
    OnlyBreach (topStatusFindings root status) statusBreached := by
  unfold topStatusFindings
  simp only
  split
  · exact onlyBreach_nil
  · exact OnlyBreach.shownAt (onlyBreach_of _ (by decide)) status

theorem onlyBreach_statusValueFindings (status : Element) :
    OnlyBreach (statusValueFindings status) statusBreached := by
  refine onlyBreach_append (onlyBreach_flatMap _ ?_) (onlyBreach_flatMap _ ?_)
  · intro code
    exact Values.onlyBreach_uriFindings _ (by decide)
  · intro message
    exact Values.onlyBreach_textFindings _ (by decide)

theorem onlyBreach_checkStatus (r : Reply) :
    OnlyBreach (checkStatus r).violations statusBreached := by
  unfold checkStatus
  simp only
  split
  · exact Outcome.onlyBreach_clean
  split
  · exact Outcome.onlyBreach_fail ((onlyBreach_of _ (by decide)).shownAt r.root)
  · exact Outcome.onlyBreach_report (onlyBreach_append (onlyBreach_topStatusFindings r.root _)
      (onlyBreach_statusValueFindings _))

theorem onlyBreach_noAssertion? (root : Element) :
    OnlyBreach (noAssertion? root).toList signOnBreached := by
  unfold noAssertion?
  split
  · exact OnlyBreach.shownAt (onlyBreach_of _ (by decide)) root
  · exact onlyBreach_nil

section

variable {cs : List Clause}

theorem onlyBreach_noSubject? (root : Element) (hc : .core_3_4_1_4_c ∈ cs) :
    OnlyBreach (noSubject? root).toList cs :=
  onlyBreach_shown _ (onlyBreach_of _ hc)

theorem onlyBreach_noAuthentication? (root : Element) (hstated : .core_3_4_a ∈ cs)
    (hc : .core_3_4_1_4_d ∈ cs) : OnlyBreach (noAuthentication? root).toList cs := by
  unfold noAuthentication?
  simp only
  split
  · exact OnlyBreach.shownAt ((onlyBreach_of _ hstated).also hc) root
  · exact onlyBreach_nil

theorem onlyBreach_wrongAudience? (root : Element) (sp : Option String)
    (hc : .core_3_4_1_4_e ∈ cs) : OnlyBreach (wrongAudience? root sp).toList cs := by
  unfold wrongAudience?
  cases sp with
  | none => exact onlyBreach_nil
  | some sp =>
      simp only [Option.bind_eq_bind, Option.bind_some]
      cases (Saml.assertions root).find? fun a => !isFor sp a with
      | none => exact onlyBreach_nil
      | some assertion => exact OnlyBreach.shownAt (onlyBreach_of _ hc) assertion

end

theorem onlyBreach_checkSignOn (r : Reply) :
    OnlyBreach (checkSignOn r).violations signOnBreached := by
  unfold checkSignOn
  simp only
  split
  · refine Outcome.onlyBreach_ofFailure
      (onlyBreach_or ?_ (onlyBreach_or ?_ (onlyBreach_or ?_ ?_)))
    · exact onlyBreach_noAssertion? r.root
    · exact onlyBreach_noSubject? r.root (by decide)
    · exact onlyBreach_noAuthentication? r.root (by decide) (by decide)
    · exact onlyBreach_wrongAudience? r.root r.request.spEntityId (by decide)
  · exact Outcome.onlyBreach_clean

theorem onlyBreaches : ∀ rule ∈ rules, rule.OnlyBreaches breached :=
  List.forall_mem_cons.mpr ⟨fun r => (onlyBreach_checkHead r).mono (by decide),
    List.forall_mem_cons.mpr ⟨fun r => (onlyBreach_checkStatus r).mono (by decide),
      List.forall_mem_singleton.mpr fun r => (onlyBreach_checkSignOn r).mono (by decide)⟩⟩

end StatusResponse

namespace SignOn

/-- The clauses of the profile. -/
def breached : List Clause :=
  [.profiles_4_1_2_a, .profiles_4_1_4_2_a, .profiles_4_1_4_2_b, .profiles_4_1_4_2_c,
    .profiles_4_1_4_2_e, .profiles_4_1_4_2_f, .profiles_4_1_4_2_g, .profiles_4_1_4_2_h,
    .profiles_4_1_4_2_i, .profiles_4_1_4_2_j, .profiles_4_1_4_5_a]

theorem onlyBreach_issuersFault? (r : Reply) : OnlyBreach (issuersFault? r).toList breached := by
  refine onlyBreach_or ?_ ?_
  · split
    · exact onlyBreach_issuerFault? r.root r.metadata (by decide)
    · exact onlyBreach_nil
  · split
    · exact OnlyBreach.shownAt (onlyBreach_of _ (by decide)) r.root
    · exact onlyBreach_findSome? _ fun a => onlyBreach_issuerFault? a r.metadata (by decide)

theorem onlyBreach_confirmationFault? (r : Reply) :
    OnlyBreach (confirmationFault? r).toList breached := by
  unfold confirmationFault?
  split
  · exact OnlyBreach.shownAt (onlyBreach_of _ (by decide)) r.root
  split
  · exact onlyBreach_nil
  · exact OnlyBreach.shownAt (onlyBreach_of _ (by decide)) r.root

theorem onlyBreach_authenticationFault? (r : Reply) :
    OnlyBreach (authenticationFault? r).toList breached := by
  unfold authenticationFault?
  split
  · exact OnlyBreach.shownAt (onlyBreach_of _ (by decide)) r.root
  split
  · exact onlyBreach_shown _ (onlyBreach_of _ (by decide))
  · exact onlyBreach_nil

theorem onlyBreach_audienceFault? (r : Reply) :
    OnlyBreach (audienceFault? r).toList breached := by
  unfold audienceFault?
  cases r.request.spEntityId with
  | none => exact onlyBreach_nil
  | some sp =>
      simp only [Option.bind_eq_bind, Option.bind_some]
      cases (Saml.bearerAssertions r.root).find? fun a => !isRestrictedTo sp a with
      | none => exact onlyBreach_nil
      | some assertion => exact OnlyBreach.shownAt (onlyBreach_of _ (by decide)) assertion

theorem onlyBreach_signatureFault? (r : Reply) :
    OnlyBreach (signatureFault? r).toList breached := by
  unfold signatureFault?
  split
  · exact OnlyBreach.shownAt (onlyBreach_of _ (by decide)) r.root
  · exact onlyBreach_nil

/-- A check that applies to some responses only breaches what it breaches anywhere. -/
theorem onSuccess_onlyBreaches (name : String) {fault? : Reply → Option Violation}
    (h : ∀ r, OnlyBreach (fault? r).toList breached) :
    Rule.OnlyBreaches ⟨name, onSuccess fault?⟩ breached := by
  intro r
  simp only [onSuccess]
  split
  · exact Outcome.onlyBreach_ofFailure (h r)
  · exact Outcome.onlyBreach_clean

theorem onlyBreach_checkError (r : Reply) : OnlyBreach (checkError r).violations breached := by
  unfold checkError
  split
  · exact Outcome.onlyBreach_ofFailure (onlyBreach_shown _ (onlyBreach_of _ (by decide)))
  · exact Outcome.onlyBreach_clean

theorem onlyBreaches : ∀ rule ∈ rules, rule.OnlyBreaches breached := by
  simp only [rules, List.forall_mem_cons]
  refine ⟨?_, ?_, ?_, ?_, ?_, ?_, ?_, List.forall_mem_nil _⟩
  · intro r
    exact Outcome.onlyBreach_failIf _ (onlyBreach_of _ (by decide))
  · exact onSuccess_onlyBreaches _ onlyBreach_issuersFault?
  · exact onlyBreach_checkError
  · exact onSuccess_onlyBreaches _ onlyBreach_confirmationFault?
  · exact onSuccess_onlyBreaches _ onlyBreach_authenticationFault?
  · exact onSuccess_onlyBreaches _ onlyBreach_audienceFault?
  · exact onSuccess_onlyBreaches _ onlyBreach_signatureFault?

end SignOn

namespace Logout

theorem onlyBreach_reasonFindings (root : Element) :
    OnlyBreach (reasonFindings root) [.core_3_7_1_a, .core_3_7_1_b, .core_1_3_2_a] := by
  unfold reasonFindings
  split
  · exact onlyBreach_nil
  · exact Values.onlyBreach_uriFindings _ (by decide)

theorem protocolRule_onlyBreaches :
    protocolRule.OnlyBreaches [.core_3_7_1_a, .core_3_7_1_b, .core_1_3_2_a] := by
  intro r
  simp only [protocolRule, checkRequest]
  split
  · exact Outcome.onlyBreach_clean
  · exact Outcome.onlyBreach_andThen
      (Outcome.onlyBreach_report (onlyBreach_reasonFindings r.root))
      (Outcome.onlyBreach_failIf _ ((onlyBreach_of _ (by decide)).shownAt r.root))

/-- The two rules of the profile differ in their clauses: one for the signature, one for
the issuer. -/
theorem checkProfile_onlyBreaches (rule name title : String) (signed issued : Clause) :
    Rule.OnlyBreaches ⟨rule, checkProfile name title signed issued⟩ [signed, issued] := by
  intro r
  simp only [checkProfile]
  split
  · exact Outcome.onlyBreach_clean
  split
  · exact Outcome.onlyBreach_fail (onlyBreach_of _ List.mem_cons_self)
  · exact Outcome.onlyBreach_ofFailure (onlyBreach_issuerFault? r.root r.metadata
      (List.mem_cons_of_mem signed List.mem_cons_self))

theorem profileRules_onlyBreach : ∀ rule ∈ profileRules, rule.OnlyBreaches
    [.profiles_4_4_4_1_a, .profiles_4_4_4_1_b, .profiles_4_4_4_2_a, .profiles_4_4_4_2_b] := by
  refine List.forall_mem_cons.mpr ⟨?_, List.forall_mem_singleton.mpr ?_⟩
  · exact (checkProfile_onlyBreaches _ _ _ _ _).mono (by decide)
  · exact (checkProfile_onlyBreaches _ _ _ _ _).mono (by decide)

end Logout

namespace Transport

section

variable {cs : List Clause} {c : Clause}

theorem onlyBreach_destinationFindings (r : Reply) (hc : c ∈ cs) :
    OnlyBreach (destinationFindings r c) cs := by
  unfold destinationFindings
  simp only
  split
  · exact onlyBreach_nil
  · exact OnlyBreach.shownAt (onlyBreach_of _ hc) r.root

theorem onlyBreach_lengthFindings (relayState : String) (hc : c ∈ cs) :
    OnlyBreach (lengthFindings relayState c) cs := by
  unfold lengthFindings
  simp only
  split
  · exact onlyBreach_of _ hc
  · exact onlyBreach_nil

theorem onlyBreach_missingFindings (given : Bool) (hc : c ∈ cs) :
    OnlyBreach (missingFindings given c) cs := by
  cases given with
  | false => exact onlyBreach_nil
  | true => exact onlyBreach_of _ hc

theorem onlyBreach_redirectEchoFindings (raw decoded expected : String)
    (hother : .bindings_3_4_3_b ∈ cs) (hescape : .bindings_3_4_4_1_d ∈ cs) :
    OnlyBreach (redirectEchoFindings raw decoded expected) cs := by
  unfold redirectEchoFindings
  split
  · exact onlyBreach_nil
  split
  · exact onlyBreach_of _ hescape
  · exact onlyBreach_of _ hother

theorem onlyBreach_redirectStatus (r : Reply) (hc : .bindings_3_4_6_a ∈ cs) :
    OnlyBreach (redirectStatus r).violations cs := by
  unfold redirectStatus
  simp only
  split
  · exact Outcome.onlyBreach_clean
  · exact Outcome.onlyBreach_report (onlyBreach_of _ hc)

theorem onlyBreach_redirectEncoding (r : Reply) (hc : .bindings_3_4_4_a ∈ cs)
    (htype : .core_1_3_2_a ∈ cs) : OnlyBreach (redirectEncoding r).violations cs := by
  unfold redirectEncoding
  split
  · exact Outcome.onlyBreach_clean
  · refine Outcome.onlyBreach_report (Values.onlyBreach_uriFindings _ ?_)
    exact List.cons_subset.mpr ⟨htype, List.cons_subset.mpr ⟨hc, List.nil_subset cs⟩⟩

theorem onlyBreach_redirectSignature (r : Reply) (hc : .bindings_3_4_4_1_a ∈ cs) :
    OnlyBreach (redirectSignature r).violations cs := by
  unfold redirectSignature
  split
  · exact Outcome.onlyBreach_clean
  · exact Outcome.onlyBreach_report ((onlyBreach_of _ hc).shownAt _)

theorem onlyBreach_redirectDestination (r : Reply) (hc : .bindings_3_4_5_2_a ∈ cs) :
    OnlyBreach (redirectDestination r).violations cs := by
  unfold redirectDestination
  split
  · exact Outcome.onlyBreach_report (onlyBreach_destinationFindings r hc)
  · exact Outcome.onlyBreach_clean

theorem onlyBreach_postStatus (r : Reply) (hc : .bindings_3_5_6_a ∈ cs) :
    OnlyBreach (postStatus r).violations cs := by
  unfold postStatus
  simp only
  split
  · exact Outcome.onlyBreach_clean
  · exact Outcome.onlyBreach_report (onlyBreach_of _ hc)

theorem onlyBreach_postDestination (r : Reply) (hc : .bindings_3_5_5_2_a ∈ cs) :
    OnlyBreach (postDestination r).violations cs := by
  unfold postDestination
  split
  · exact Outcome.onlyBreach_clean
  · exact Outcome.onlyBreach_report (onlyBreach_destinationFindings r hc)

end

/-- The clauses about relay states. -/
def relayStateClauses : Saml.Binding → List Clause
  | .redirect => [.bindings_3_4_3_a, .bindings_3_4_3_b, .bindings_3_4_4_1_d]
  | .post => [.bindings_3_5_3_a, .bindings_3_5_3_b]

theorem onlyBreach_relayStateOutcome (relayState : Option String) (given : Bool)
    (expected : String) : OnlyBreach (relayStateOutcome relayState given expected).violations
      (relayStateClauses .redirect) := by
  unfold relayStateOutcome
  split
  · exact Outcome.onlyBreach_report (onlyBreach_missingFindings given (by decide))
  split
  · exact Outcome.onlyBreach_report (onlyBreach_of _ (by decide))
  · refine Outcome.onlyBreach_report
      (onlyBreach_append (onlyBreach_lengthFindings _ (by decide)) ?_)
    split
    · exact onlyBreach_redirectEchoFindings _ _ _ (by decide) (by decide)
    · exact onlyBreach_nil

theorem onlyBreach_postRelayState (r : Reply) :
    OnlyBreach (postRelayState r).violations (relayStateClauses .post) := by
  unfold postRelayState
  split
  · exact Outcome.onlyBreach_report (onlyBreach_missingFindings _ (by decide))
  · refine Outcome.onlyBreach_report
      (onlyBreach_append (onlyBreach_lengthFindings _ (by decide)) ?_)
    split
    · exact onlyBreach_of _ (by decide)
    · exact onlyBreach_nil

/-- The clauses about redirects, and the clause about URI references, which the name of an
encoding breaches as well. -/
def redirectBreached : List Clause :=
  [.bindings_3_4_6_a, .bindings_3_4_3_a, .bindings_3_4_3_b, .bindings_3_4_4_1_d,
    .bindings_3_4_4_a, .core_1_3_2_a, .bindings_3_4_4_1_a, .bindings_3_4_5_2_a]

theorem redirectRules_onlyBreach : ∀ rule ∈ redirectRules, rule.OnlyBreaches redirectBreached := by
  simp only [redirectRules, List.forall_mem_cons]
  exact ⟨fun r => onlyBreach_redirectStatus r (by decide),
    fun r => (onlyBreach_relayStateOutcome _ _ _).mono (by decide),
    fun r => onlyBreach_redirectEncoding r (by decide) (by decide),
    fun r => onlyBreach_redirectSignature r (by decide),
    fun r => onlyBreach_redirectDestination r (by decide), List.forall_mem_nil _⟩

/-- The clauses about forms. -/
def postBreached : List Clause :=
  [.bindings_3_5_6_a, .bindings_3_5_3_a, .bindings_3_5_3_b, .bindings_3_5_5_2_a]

theorem postRules_onlyBreach : ∀ rule ∈ postRules, rule.OnlyBreaches postBreached := by
  simp only [postRules, List.forall_mem_cons]
  exact ⟨fun r => onlyBreach_postStatus r (by decide),
    fun r => (onlyBreach_postRelayState r).mono (by decide),
    fun r => onlyBreach_postDestination r (by decide), List.forall_mem_nil _⟩

end Transport

namespace RuleGroup

theorem protocol_onlyBreaches : ∀ rule ∈ protocol.rules, rule.OnlyBreaches protocol.covered := by
  refine List.forall_mem_append.mpr ⟨?_, List.forall_mem_singleton.mpr ?_⟩
  · exact fun rule h => (StatusResponse.onlyBreaches rule h).mono (by decide +kernel)
  · exact Logout.protocolRule_onlyBreaches.mono (by decide +kernel)

theorem profile_onlyBreaches : ∀ rule ∈ profile.rules, rule.OnlyBreaches profile.covered := by
  refine List.forall_mem_append.mpr ⟨?_, ?_⟩
  · exact fun rule h => (SignOn.onlyBreaches rule h).mono (by decide +kernel)
  · exact fun rule h => (Logout.profileRules_onlyBreach rule h).mono (by decide +kernel)

theorem binding_onlyBreaches (b : Saml.Binding) :
    ∀ rule ∈ (binding b).rules, rule.OnlyBreaches (binding b).covered := by
  cases b with
  | redirect =>
      exact fun rule h => (Transport.redirectRules_onlyBreach rule h).mono (by decide +kernel)
  | post =>
      exact fun rule h => (Transport.postRules_onlyBreach rule h).mono (by decide +kernel)

/-- What a group finds breaches clauses within its sections, or about types. -/
theorem groups_onlyBreach (b : Saml.Binding) {g : RuleGroup} (hg : g ∈ groups b) (r : Reply) :
    OnlyBreach (g.run r) g.covered := by
  simp only [groups, List.mem_cons, List.not_mem_nil, or_false] at hg
  rcases hg with rfl | rfl | rfl | rfl
  · exact onlyBreach_run core_onlyBreaches r
  · exact onlyBreach_run protocol_onlyBreaches r
  · exact onlyBreach_run profile_onlyBreaches r
  · exact onlyBreach_run (binding_onlyBreaches b) r

end RuleGroup

end SamlConformance
