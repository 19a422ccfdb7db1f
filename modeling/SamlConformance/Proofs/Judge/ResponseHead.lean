import SamlConformance.Proofs.Judge.Chapters

/-!
# No Fault Hides One in the Attributes of a Response

A rule that fails ends its group, and what the rules behind it would have found is not
said. So a fault could in principle hide another one. With the attributes of a status
response this does not happen: the rule about them is the first of its group, and it fails
only for a missing identifier, in front of all that it reports. Whatever else is wrong with
a message, a clause about one of the attributes is breached exactly if this attribute is
not as demanded.

That the clause is breached nowhere else follows from the lists of what the other checks
can breach, in which it does not occur.

## Main definitions

* `StatusResponse.attributeClauses`: The clauses about the attributes of a response.

## Theorems

* `Values.breached_uriFindings_iff`, `Values.breached_timeFindings_iff`: A fault in a value
  breaches the clause that demands the value.
* `StatusResponse.breached_checkHead_iff`: What the rule about the attributes finds where
  there is an identifier.
* `Session.breached_verify_iff`: The verdict on a message breaches one of these clauses if
  and only if this rule does.
* `Session.response_attributes_unmasked`: When each of the clauses is breached.
-/

namespace SamlConformance

open Xml (Element)

theorem Violation.mem_clauses_also_iff (v : Violation) (c d : Clause) :
    d ∈ (v.also c).clauses ↔ d ∈ v.clauses ∨ d = c := by
  unfold also
  by_cases h : v.clauses.contains c = true
  · rw [if_pos h]
    refine ⟨Or.inl, fun hd => hd.elim id ?_⟩
    rintro rfl
    exact List.contains_iff_mem.mp h
  · rw [if_neg h]
    simp only [clauses, List.mem_cons, List.mem_append, List.not_mem_nil, or_false, or_assoc]

namespace Values

variable {c d : Clause}

theorem breached_breach_iff {type : Clause} (message : String) (hd : d ≠ type) :
    Breached [breach type (some c) message] d ↔ d = c := by
  rw [breached_singleton_iff, breach, Violation.mem_clauses_also_iff, or_iff_left hd]
  exact List.mem_singleton

/-- A faulty URI reference breaches the clause that demands one. -/
theorem breached_uriFindings_iff (value : Option String) (hd : d ≠ .core_1_3_2_a) :
    Breached (uriFindings value (some c)) d ↔ d = c ∧ ¬ value.any isUri = true := by
  unfold uriFindings
  by_cases h : value.any isUri = true
  · simp only [if_pos h]
    exact iff_of_false not_breached_nil fun hc => hc.2 h
  · simp only [if_neg h]
    rw [breached_breach_iff _ hd, and_iff_left h]

/-- A faulty time breaches the clause that demands one, in whatever way it is faulty. -/
theorem breached_timeFindings_iff (value : String) (hd : d ≠ .core_1_3_3_a) :
    Breached (timeFindings value (some c)) d ↔ d = c ∧ ¬ isUniversalTime value = true := by
  unfold timeFindings
  by_cases h : isUniversalTime value = true
  · rw [if_pos h]
    exact iff_of_false not_breached_nil fun hc => hc.2 h
  · rw [if_neg h, and_iff_left h]
    split
    · exact breached_breach_iff _ hd
    · exact breached_breach_iff _ hd

end Values

namespace StatusResponse

/-- The clauses about the attributes of a response, of which the first is about its
identifier. -/
def attributeClauses : List Clause :=
  [.core_3_2_2_a, .core_3_2_2_b, .core_3_2_2_c, .core_3_2_2_d, .core_3_2_2_e]

theorem breached_mismatchFindings_iff (c d : Clause) (property : String) (actual : Option String)
    (expected : String) :
    Breached (mismatchFindings c property actual expected) d ↔ d = c ∧ actual ≠ some expected := by
  unfold mismatchFindings
  by_cases h : actual = some expected
  · rw [if_pos h]
    exact iff_of_false not_breached_nil fun hc => hc.2 h
  · rw [if_neg h, breached_singleton_iff, and_iff_left h]
    exact List.mem_singleton

theorem breached_issuedFindings_iff (root : Element) (d : Clause) (hd : d ≠ .core_1_3_3_a) :
    Breached (issuedFindings root) d ↔ d = .core_3_2_2_d ∧
      ∀ time, root.attribute? "IssueInstant" = some time →
        ¬ Values.isUniversalTime time = true := by
  unfold issuedFindings
  cases h : root.attribute? "IssueInstant" with
  | none =>
      rw [breached_singleton_iff, and_iff_left fun time htime => absurd htime.symm
        (Option.some_ne_none time)]
      exact List.mem_singleton
  | some issued =>
      rw [Values.breached_timeFindings_iff issued hd]
      simp only [Option.some.injEq, forall_eq']

theorem breached_destinationFindings_iff (root : Element) (acsUrl : String) (d : Clause)
    (hd : d ≠ .core_1_3_2_a) :
    Breached (destinationFindings root acsUrl) d ↔ d = .core_3_2_2_e ∧
      ∃ address, root.attribute? "Destination" = some address ∧
        (¬ Values.isUri address = true ∨ address ≠ acsUrl) := by
  unfold destinationFindings
  cases h : root.attribute? "Destination" with
  | none =>
      refine iff_of_false not_breached_nil ?_
      rintro ⟨-, address, haddress, -⟩
      exact Option.some_ne_none address haddress.symm
  | some address =>
      rw [breached_append_iff, Values.breached_uriFindings_iff _ hd,
        breached_mismatchFindings_iff, ← and_or_left]
      simp only [Option.any_some, ne_eq, Option.some.injEq, exists_eq_left']

/-- What the rule about the attributes finds where there is an identifier: each attribute is
looked at whatever the others are. -/
theorem breached_checkHead_iff (r : Reply) (hresponse : Saml.isStatusResponse r.root = true)
    (hid : (r.root.attribute? "ID").isSome) (d : Clause) (hd : d ∈ attributeClauses) :
    Breached (checkHead r).violations d ↔
      (d = .core_3_2_2_b ∧ r.root.attribute? "InResponseTo" ≠ some r.request.id) ∨
      (d = .core_3_2_2_c ∧ r.root.attribute? "Version" ≠ some "2.0") ∨
      (d = .core_3_2_2_d ∧ ∀ time, r.root.attribute? "IssueInstant" = some time →
        ¬ Values.isUniversalTime time = true) ∨
      (d = .core_3_2_2_e ∧ ∃ address, r.root.attribute? "Destination" = some address ∧
        (¬ Values.isUri address = true ∨ address ≠ r.request.acsUrl)) := by
  have huri : d ≠ .core_1_3_2_a := by
    rintro rfl
    exact absurd hd (by decide)
  have htime : d ≠ .core_1_3_3_a := by
    rintro rfl
    exact absurd hd (by decide)
  have hpresent : ¬ (r.root.attribute? "ID").isNone = true := by
    rw [Option.isNone_iff_eq_none]
    exact Option.isSome_iff_ne_none.mp hid
  simp only [checkHead, hresponse, Bool.not_true, Bool.false_eq_true, if_false, hpresent,
    Outcome.violations_report, breached_append_iff, breached_mismatchFindings_iff,
    breached_issuedFindings_iff r.root d htime,
    breached_destinationFindings_iff r.root r.request.acsUrl d huri, or_assoc]
  rfl

/-- Without an identifier the rule fails, and looks at no other attribute. -/
theorem breached_checkHead_of_unidentified (r : Reply)
    (hresponse : Saml.isStatusResponse r.root = true) (hid : r.root.attribute? "ID" = none)
    (d : Clause) : Breached (checkHead r).violations d ↔ d = .core_3_2_2_a := by
  have hmissing : (r.root.attribute? "ID").isNone = true := by rw [hid]; rfl
  simp only [checkHead, hresponse, Bool.not_true, Bool.false_eq_true, if_false, hmissing, if_true]
  exact breached_singleton_iff.trans List.mem_singleton

theorem not_breached_checkHead (r : Reply) (hresponse : ¬ Saml.isStatusResponse r.root = true)
    (d : Clause) : ¬ Breached (checkHead r).violations d := by
  simp only [checkHead, hresponse, Bool.not_false, if_true]
  exact not_breached_nil

end StatusResponse

namespace RuleGroup

open StatusResponse (attributeClauses)

/-- In the group of the protocol, what the first rule finds about the attributes is what the
group finds about them. -/
theorem breached_protocol_iff (r : Reply) (d : Clause) (hd : d ∈ attributeClauses) :
    Breached (protocol.run r) d ↔ Breached (StatusResponse.checkHead r).violations d := by
  have hrules : ∀ rule ∈ [⟨"status_code", StatusResponse.checkStatus⟩,
      ⟨"authn_response", StatusResponse.checkSignOn⟩, Logout.protocolRule],
      rule.OnlyBreaches (StatusResponse.statusBreached ++ StatusResponse.signOnBreached ++
        [.core_3_7_1_a, .core_3_7_1_b, .core_1_3_2_a]) := by
    simp only [List.forall_mem_cons]
    exact ⟨fun r => (StatusResponse.onlyBreach_checkStatus r).mono (by decide),
      fun r => (StatusResponse.onlyBreach_checkSignOn r).mono (by decide),
      Logout.protocolRule_onlyBreaches.mono (by decide), List.forall_mem_nil _⟩
  have hothers : ∀ d ∈ attributeClauses, d ∉ StatusResponse.statusBreached ++
      StatusResponse.signOnBreached ++ [.core_3_7_1_a, .core_3_7_1_b, .core_1_3_2_a] := by
    decide
  have hbehind : OnlyBreach _ _ := Outcome.onlyBreach_all (List.forall_mem_map.mpr
    fun rule hrule => hrules rule hrule r)
  exact Outcome.breached_andThen_iff (hbehind.not_breached (hothers d hd))

/-- No other group covers them. -/
theorem not_mem_covered_of_ne_protocol (b : Saml.Binding) (g : RuleGroup)
    (hg : g ∈ [core, profile, binding b]) (d : Clause) (hd : d ∈ attributeClauses) :
    d ∉ g.covered := by
  rw [mem_covered_iff]
  -- All of them are within one section, which the other groups do not declare.
  have hsection : ∀ d ∈ attributeClauses, d.toSection = ⟨.core, [3, 2]⟩ := by decide
  rw [hsection d hd]
  simp only [List.mem_cons, List.not_mem_nil, or_false] at hg
  rcases hg with rfl | rfl | rfl
  · decide
  · decide
  · cases b <;> decide

end RuleGroup

namespace Session

open StatusResponse (attributeClauses)

section

variable (s : Session) (j : Judge) (w : Worker) (check : Option SignatureCheck)
variable (received : Received) (m : Message) (request : Request)
variable (hm : Message.decode check received = .ok m)

include hm

/-- Neither decoding nor another rule has a say in what is found about the attributes. -/
theorem breached_verify_iff (d : Clause) (hd : d ∈ attributeClauses) :
    Breached (s.verify j w m request).1 d ↔
      Breached (StatusResponse.checkHead ⟨m, request, j.metadata⟩).violations d := by
  have hlists : ∀ b : Saml.Binding, ∀ d ∈ attributeClauses,
      d ∉ b.breachedByPayload ++ b.breachedBySignature := by
    intro b
    cases b <;> decide
  have hgroup := s.breached_verify_iff_run j w check received m request hm [.core]
    [.profile, .binding received.binding] rfl d (hlists received.binding d hd)
    fun g hg => RuleGroup.not_mem_covered_of_ne_protocol received.binding g hg d hd
  exact hgroup.trans (RuleGroup.breached_protocol_iff _ d hd)

/-- The clauses about the attributes of a response are breached each for its own reason,
whatever else is wrong with the message. Where there is no identifier, this is all that is
said; where there is one, each other clause is breached if and only if its attribute is not
as demanded. Other messages breach none of them. -/
theorem response_attributes_unmasked :
    (Saml.isStatusResponse m.root = true → m.root.attribute? "ID" = none →
      Breached (s.verify j w m request).1 .core_3_2_2_a ∧
      ¬ Breached (s.verify j w m request).1 .core_3_2_2_b ∧
      ¬ Breached (s.verify j w m request).1 .core_3_2_2_c ∧
      ¬ Breached (s.verify j w m request).1 .core_3_2_2_d ∧
      ¬ Breached (s.verify j w m request).1 .core_3_2_2_e) ∧
    (Saml.isStatusResponse m.root = true → (m.root.attribute? "ID").isSome →
      ¬ Breached (s.verify j w m request).1 .core_3_2_2_a ∧
      (Breached (s.verify j w m request).1 .core_3_2_2_b ↔
        m.root.attribute? "InResponseTo" ≠ some request.id) ∧
      (Breached (s.verify j w m request).1 .core_3_2_2_c ↔
        m.root.attribute? "Version" ≠ some "2.0") ∧
      (Breached (s.verify j w m request).1 .core_3_2_2_d ↔
        ∀ time, m.root.attribute? "IssueInstant" = some time →
          ¬ Values.isUniversalTime time = true) ∧
      (Breached (s.verify j w m request).1 .core_3_2_2_e ↔
        ∃ address, m.root.attribute? "Destination" = some address ∧
          (¬ Values.isUri address = true ∨ address ≠ request.acsUrl))) ∧
    (¬ Saml.isStatusResponse m.root = true →
      ∀ d ∈ attributeClauses, ¬ Breached (s.verify j w m request).1 d) := by
  have hverify := breached_verify_iff s j w check received m request hm
  refine ⟨?_, ?_, ?_⟩
  · intro hresponse hid
    have hhead := fun d hd => (hverify d hd).trans
      (StatusResponse.breached_checkHead_of_unidentified ⟨m, request, j.metadata⟩ hresponse hid d)
    rw [hhead _ (by decide), hhead _ (by decide), hhead _ (by decide), hhead _ (by decide),
      hhead _ (by decide)]
    decide
  · intro hresponse hid
    have hhead := fun d hd => (hverify d hd).trans
      (StatusResponse.breached_checkHead_iff ⟨m, request, j.metadata⟩ hresponse hid d hd)
    rw [hhead _ (by decide), hhead _ (by decide), hhead _ (by decide), hhead _ (by decide),
      hhead _ (by decide)]
    simp only [reduceCtorEq, false_and, true_and, or_false, false_or, not_false_eq_true]
    exact ⟨Iff.rfl, Iff.rfl, Iff.rfl, Iff.rfl⟩
  · intro hresponse d hd
    rw [hverify d hd]
    exact StatusResponse.not_breached_checkHead ⟨m, request, j.metadata⟩ hresponse d

end

/-- A response with an outdated version, no time of issue and a strange address, in which the
rules of the other groups find faults as well. -/
def faultyResponse : String :=
  "<p:Response xmlns:p=\"urn:oasis:names:tc:SAML:2.0:protocol\" ID=\"_1\" InResponseTo=\"_0\"
    Version=\"1.1\" Destination=\"here\"/>"

/-- Three of its attributes are not as demanded, and the fourth is. -/
theorem response_attributes_unmasked_faultyResponse :
    ∃ root, Xml.parse faultyResponse = .ok root ∧ Saml.isStatusResponse root = true ∧
      (root.attribute? "ID").isSome ∧
      Message.decode none (.posted faultyResponse) =
        .ok ⟨.posted faultyResponse, .response, faultyResponse, root, []⟩ ∧
      let found := (Session.verify {} ⟨⟨"idp", [], [], none⟩, none, false⟩ 0
        ⟨.posted faultyResponse, .response, faultyResponse, root, []⟩
        { id := "_0", acsUrl := "https://sp" }).1
      ¬ Breached found .core_3_2_2_b ∧ Breached found .core_3_2_2_c ∧
        Breached found .core_3_2_2_d ∧ Breached found .core_3_2_2_e := by
  obtain ⟨root, hparse, hresponse, hid, hto, hversion, hissued, haddress⟩ :
      ∃ root, Xml.parse faultyResponse = .ok root ∧ Saml.isStatusResponse root = true ∧
        (root.attribute? "ID").isSome ∧ root.attribute? "InResponseTo" = some "_0" ∧
        root.attribute? "Version" = some "1.1" ∧ root.attribute? "IssueInstant" = none ∧
        root.attribute? "Destination" = some "here" := by
    refine Xml.exists_parse_eq_ok _ _ ?_
    rw [faultyResponse, Xml.parse_ofList]
    decide +kernel
  have hdecode := Message.decode_posted none faultyResponse root hparse
  obtain ⟨-, hto', hversion', hissued', haddress'⟩ :=
    (response_attributes_unmasked {} ⟨⟨"idp", [], [], none⟩, none, false⟩ 0 none _ _
      { id := "_0", acsUrl := "https://sp" } hdecode).2.1 hresponse hid
  refine ⟨root, hparse, hresponse, hid, hdecode, ?_, ?_, ?_, ?_⟩
  · rw [hto']
    exact not_not_intro hto
  · rw [hversion', hversion]
    decide
  · rw [hissued', hissued]
    exact fun time htime => absurd htime.symm (Option.some_ne_none time)
  · rw [haddress', haddress]
    exact ⟨"here", rfl, Or.inr (by decide)⟩

end Session

end SamlConformance
