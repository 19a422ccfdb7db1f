import SamlConformance.Proofs.Message.Decoding
import SamlConformance.Proofs.Rule.Breaches.Protocol
import SamlConformance.Proofs.Rule.Offenders
import SamlConformance.Proofs.Rule.SignOn

/-!
# Responses Without an Assertion

That a successful response carries an assertion is asked twice: by the rule of the protocol
about responses to a sign-on, and by the rule of the profile about issuers. Both look at what
stands directly in the response, so that assertions deeper down or in another namespace count
for neither. But one that is encrypted counts for the protocol, and not for the profile.

So the two agree on responses with a readable assertion and on those without any, as far as
the second rule gets to its question: it looks at the issuer of a signed response first. Where
the only assertions are encrypted, the profile misses what the protocol finds
(`encrypted_taken_for_absent`).

## Main definitions

* `Outcome.FailsWith`: A check fails by the breach of a clause.

## Theorems

* `Outcome.failsWith_or_iff`: Which of two faults is the one that counts.
* `StatusResponse.failsWith_checkSignOn_iff`, `SignOn.failsWith_issuersFault?_iff`: When the two
  rules miss an assertion.
* `absence_judged`: Where they agree.
-/

namespace SamlConformance

open Xml (Element)

namespace Outcome

/-- The check fails, and by the breach of this clause. -/
def FailsWith (o : Outcome) (c : Clause) : Prop :=
  ∃ v, o.failure = some v ∧ c ∈ v.clauses

instance (o : Outcome) (c : Clause) : Decidable (o.FailsWith c) :=
  decidable_of_iff (o.failure.any fun v => v.clauses.contains c) (by
    simp only [FailsWith, Option.any_eq_true, List.contains_iff_mem])

variable {c : Clause} {a b : Option Violation}

theorem not_failsWith_none : ¬ (ofFailure none).FailsWith c := by
  rintro ⟨v, hv, -⟩
  exact Option.some_ne_none v hv.symm

/-- Of two faults the second counts only where there is no first one. -/
theorem failsWith_or_iff : (ofFailure (a.or b)).FailsWith c ↔
    (ofFailure a).FailsWith c ∨ a = none ∧ (ofFailure b).FailsWith c := by
  cases a with
  | none => rw [Option.none_or, or_iff_right not_failsWith_none, and_iff_right rfl]
  | some v => simp only [Option.some_or, reduceCtorEq, false_and, or_false]

/-- A fault fails a check with none but the clauses it can breach. -/
theorem not_failsWith {cs : List Clause} (h : OnlyBreach a.toList cs) (hc : c ∉ cs) :
    ¬ (ofFailure a).FailsWith c := by
  rintro ⟨v, hv, hmem⟩
  exact hc (h v (Option.mem_toList.mpr hv) hmem)

/-- A check for one thing fails with its clause if and only if the thing is wrong. -/
theorem failsWith_ite_iff (p : Prop) [Decidable p] (message : String) (e : Element) :
    (ofFailure (if p then some ((Violation.of c message).shownAt e) else none)).FailsWith c ↔
      p := by
  by_cases hp : p
  · rw [if_pos hp]
    exact iff_of_true ⟨_, rfl, List.mem_cons_self⟩ hp
  · rw [if_neg hp]
    exact iff_of_false not_failsWith_none hp

end Outcome

theorem isEmpty_assertions_iff (e : Element) :
    (Saml.assertions e).isEmpty = true ↔ ¬ Holds e "Assertion" := by
  have hsome : Holds e "Assertion" ↔ (Saml.assertions e).isEmpty = false :=
    List.isEmpty_eq_false_iff_exists_mem.symm
  rw [hsome, Bool.not_eq_false]

/-- The rule of the protocol misses an assertion if there is neither a readable one nor one
that is encrypted. Whatever else it finds is something else. -/
theorem StatusResponse.failsWith_checkSignOn_iff (r : Reply)
    (hroot : r.root.is Saml.protocolNs "Response" = true)
    (hsuccess : Saml.statesSuccess r.root = true) :
    (checkSignOn r).FailsWith .core_3_4_1_4_a ↔
      ¬ Holds r.root "Assertion" ∧ ¬ Holds r.root "EncryptedAssertion" := by
  -- What comes after the question about assertions breaches other clauses.
  have hother : ∀ v : Option Violation, OnlyBreach v.toList
      [.core_3_4_1_4_c, .core_3_4_a, .core_3_4_1_4_d, .core_3_4_1_4_e] →
      ¬ (Outcome.ofFailure v).FailsWith .core_3_4_1_4_a :=
    fun v h => Outcome.not_failsWith h (by decide)
  have hsubject := hother _ (onlyBreach_noSubject? r.root (by decide))
  have hstated := hother _ (onlyBreach_noAuthentication? r.root (by decide) (by decide))
  have haudience := hother _ (onlyBreach_wrongAudience? r.root r.request.spEntityId (by decide))
  simp only [checkSignOn, hroot, hsuccess, Bool.and_self, if_true, Outcome.failsWith_or_iff,
    hsubject, hstated, haudience, and_false, or_false]
  rw [noAssertion?, Outcome.failsWith_ite_iff, Bool.and_eq_true, Bool.not_eq_true',
    isEmpty_assertions_iff, ← Bool.not_eq_true, hasChild_iff_holds]

namespace SignOn

/-- What the protocol takes for a success, the profile speaks about. -/
theorem isSuccessful_of_success (root : Element)
    (hroot : root.is Saml.protocolNs "Response" = true)
    (hsuccess : Saml.statesSuccess root = true) : isSuccessful root = true := by
  have hname : isResponse root = true := (Bool.and_eq_true_iff.mp hroot).1
  have hstatus : Saml.topStatus? root = some Saml.StatusCode.success.uri :=
    beq_iff_eq.mp hsuccess
  have herror : Saml.statesError root = false := by
    rw [Saml.statesError, hstatus, Option.any_some, bne_self_eq_false]
  rw [isSuccessful, hname, herror]
  rfl

/-- The rule of the profile misses an assertion if there is no readable one, and if it gets so
far: the issuer of a signed response comes first. -/
theorem failsWith_issuersFault?_iff (r : Reply)
    (hroot : r.root.is Saml.protocolNs "Response" = true)
    (hsuccess : Saml.statesSuccess r.root = true) :
    (onSuccess issuersFault? r).FailsWith .profiles_4_1_4_2_b ↔
      ¬ Holds r.root "Assertion" ∧ (r.isSigned = true → IssuedBy r.root r.metadata) := by
  -- What is wrong with an issuer breaches other clauses.
  have hother : ∀ v : Option Violation,
      OnlyBreach v.toList [.profiles_4_1_4_2_a, .profiles_4_1_4_2_c] →
      ¬ (Outcome.ofFailure v).FailsWith .profiles_4_1_4_2_b :=
    fun v h => Outcome.not_failsWith h (by decide)
  have hown : ¬ (Outcome.ofFailure (if r.isSigned then
      issuerFault? r.root .profiles_4_1_4_2_a r.metadata else none)).FailsWith
        .profiles_4_1_4_2_b := by
    refine hother _ ?_
    split
    · exact onlyBreach_issuerFault? r.root r.metadata (by decide)
    · exact onlyBreach_nil
  have hissued : (if r.isSigned then issuerFault? r.root .profiles_4_1_4_2_a r.metadata
      else none) = none ↔ (r.isSigned = true → IssuedBy r.root r.metadata) := by
    rw [ite_eq_right_iff, issuerFault?_eq_none_iff]
  have hmissed : (Outcome.ofFailure (if (Saml.assertions r.root).isEmpty then
      some ((Violation.of .profiles_4_1_4_2_b "No Assertions found.").shownAt r.root)
    else (Saml.assertions r.root).findSome? fun a =>
      issuerFault? a .profiles_4_1_4_2_c r.metadata)).FailsWith .profiles_4_1_4_2_b ↔
      ¬ Holds r.root "Assertion" := by
    rw [← isEmpty_assertions_iff]
    by_cases hnone : (Saml.assertions r.root).isEmpty = true
    · rw [if_pos hnone]
      exact iff_of_true ⟨_, rfl, List.mem_cons_self⟩ hnone
    · rw [if_neg hnone]
      refine iff_of_false (hother _ (onlyBreach_findSome? _ fun a => ?_)) hnone
      exact onlyBreach_issuerFault? a r.metadata (by decide)
  rw [onSuccess, if_pos (isSuccessful_of_success r.root hroot hsuccess), issuersFault?,
    Outcome.failsWith_or_iff, or_iff_right hown, hissued, hmissed, and_comm]

end SignOn

/-- Whether a successful response carries an assertion, as the two rules answer it. The rule of
the protocol misses one if there is neither a readable nor an encrypted assertion directly in
the response. The rule of the profile misses one if there is no readable assertion, and the
issuer of the response is right, if it is signed. So as long as there is a readable assertion
or no encrypted one, the second rule misses an assertion only if the first one does; and the
responses about which only the second one says so are those with encrypted assertions alone. -/
theorem absence_judged (r : Reply) (hroot : r.root.is Saml.protocolNs "Response" = true)
    (hsuccess : Saml.statesSuccess r.root = true) :
    let protocol := (StatusResponse.checkSignOn r).FailsWith .core_3_4_1_4_a
    let profile := (SignOn.onSuccess SignOn.issuersFault? r).FailsWith .profiles_4_1_4_2_b
    (protocol ↔ ¬ Holds r.root "Assertion" ∧ ¬ Holds r.root "EncryptedAssertion") ∧
    (profile ↔ ¬ Holds r.root "Assertion" ∧ (r.isSigned = true → IssuedBy r.root r.metadata)) ∧
    (Holds r.root "Assertion" ∨ ¬ Holds r.root "EncryptedAssertion" → profile → protocol) ∧
    (profile ∧ ¬ protocol ↔ ¬ Holds r.root "Assertion" ∧ Holds r.root "EncryptedAssertion" ∧
      (r.isSigned = true → IssuedBy r.root r.metadata)) := by
  intro protocol profile
  have hprotocol : protocol ↔ _ := StatusResponse.failsWith_checkSignOn_iff r hroot hsuccess
  have hprofile : profile ↔ _ := SignOn.failsWith_issuersFault?_iff r hroot hsuccess
  refine ⟨hprotocol, hprofile, ?_, ?_⟩
  · -- Without a readable assertion there must be no encrypted one either.
    rw [hprotocol, hprofile]
    rintro hsome ⟨hnone, -⟩
    exact ⟨hnone, hsome.resolve_left hnone⟩
  · rw [hprotocol, hprofile]
    constructor
    · rintro ⟨⟨hnone, hissued⟩, hsome⟩
      exact ⟨hnone, not_not.mp fun hencrypted => hsome ⟨hnone, hencrypted⟩, hissued⟩
    · rintro ⟨hnone, hencrypted, hissued⟩
      exact ⟨⟨hnone, hissued⟩, fun h => h.2 hencrypted⟩

/-- A successful response with an assertion in a part of it, and an element of that name in
another namespace. -/
def nestedResponse : String :=
  "<p:Response xmlns:p=\"urn:oasis:names:tc:SAML:2.0:protocol\"><p:Status><p:StatusCode
    Value=\"urn:oasis:names:tc:SAML:2.0:status:Success\"/></p:Status><p:Assertion/><p:Extensions>
    <Assertion xmlns=\"urn:oasis:names:tc:SAML:2.0:assertion\"/></p:Extensions></p:Response>"

/-- Both rules miss an assertion in it. -/
theorem absence_judged_nestedResponse :
    ∃ root, Xml.parse nestedResponse = .ok root ∧
      root.is Saml.protocolNs "Response" = true ∧ Saml.statesSuccess root = true ∧
      let r : Reply := ⟨⟨.posted nestedResponse, .response, nestedResponse, root, []⟩,
        { id := "_0", acsUrl := "https://sp" }, ⟨"idp", [], [], none⟩⟩
      (SignOn.onSuccess SignOn.issuersFault? r).FailsWith .profiles_4_1_4_2_b ∧
        (StatusResponse.checkSignOn r).FailsWith .core_3_4_1_4_a := by
  obtain ⟨root, hparse, hroot, hsuccess, hassertion, hencrypted, hsigned⟩ : ∃ root,
      Xml.parse nestedResponse = .ok root ∧ root.is Saml.protocolNs "Response" = true ∧
      Saml.statesSuccess root = true ∧ root.hasChild Saml.assertionNs "Assertion" = false ∧
      root.hasChild Saml.assertionNs "EncryptedAssertion" = false ∧
      root.hasChild Saml.signatureNs "Signature" = false := by
    refine Xml.exists_parse_eq_ok _ _ ?_
    rw [nestedResponse, Xml.parse_ofList]
    decide +kernel
  rw [← Bool.not_eq_true, hasChild_iff_holds] at hassertion hencrypted
  refine ⟨root, hparse, hroot, hsuccess, ?_⟩
  intro r
  obtain ⟨hprotocol, hprofile, -, -⟩ := absence_judged r hroot hsuccess
  refine ⟨hprofile.mpr ⟨hassertion, fun h => absurd h ?_⟩, hprotocol.mpr ⟨hassertion, hencrypted⟩⟩
  have hunsigned : r.isSigned = root.hasChild Saml.signatureNs "Signature" := Bool.or_false _
  rw [hunsigned, hsigned]
  exact Bool.false_ne_true

/-- A successful response whose only assertion is encrypted. -/
def encryptedResponse : String :=
  "<p:Response xmlns:p=\"urn:oasis:names:tc:SAML:2.0:protocol\"><p:Status><p:StatusCode
    Value=\"urn:oasis:names:tc:SAML:2.0:status:Success\"/></p:Status><EncryptedAssertion
    xmlns=\"urn:oasis:names:tc:SAML:2.0:assertion\"/></p:Response>"

/-- The rule of the profile misses an assertion in it, and that of the protocol does not. -/
theorem encrypted_taken_for_absent :
    ∃ m, Message.decode none (.posted encryptedResponse) = .ok m ∧
      m.root.is Saml.protocolNs "Response" = true ∧ Saml.statesSuccess m.root = true ∧
      let r : Reply := ⟨m, { id := "_0", acsUrl := "https://sp" }, ⟨"idp", [], [], none⟩⟩
      (SignOn.onSuccess SignOn.issuersFault? r).FailsWith .profiles_4_1_4_2_b ∧
        ¬ (StatusResponse.checkSignOn r).FailsWith .core_3_4_1_4_a := by
  obtain ⟨root, hparse, hroot, hsuccess, hfails⟩ : ∃ root,
      Xml.parse encryptedResponse = .ok root ∧ root.is Saml.protocolNs "Response" = true ∧
      Saml.statesSuccess root = true ∧
      let r : Reply := ⟨⟨.posted encryptedResponse, .response, encryptedResponse, root, []⟩,
        { id := "_0", acsUrl := "https://sp" }, ⟨"idp", [], [], none⟩⟩
      (SignOn.onSuccess SignOn.issuersFault? r).FailsWith .profiles_4_1_4_2_b ∧
        ¬ (StatusResponse.checkSignOn r).FailsWith .core_3_4_1_4_a := by
    refine Xml.exists_parse_eq_ok _ _ ?_
    rw [encryptedResponse, Xml.parse_ofList]
    decide +kernel
  exact ⟨_, Message.decode_posted none encryptedResponse root hparse, hroot, hsuccess, hfails⟩

end SamlConformance
