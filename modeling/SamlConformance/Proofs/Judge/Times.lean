import SamlConformance.Proofs.Judge.CleanVerdict
import SamlConformance.Proofs.Rule.Offenders

/-!
# Times in Clean Messages

Times are looked at by three rules in two groups. The rule about types looks at four
attributes of whatever element is below the document element, and at the time of issue of all
of these that are no assertions. The time of issue of an assertion is looked at by the rule
about assertions, which may end before it comes to it, but only by a failure. And the time of
issue of the document element is left to the rule about responses of the protocol.

Between them nothing is forgotten below the document element: an element there either is an
assertion or is none, and a rule that finds nothing at all has come to its end. So a message
that is found to be clean has no unacceptable time below its document element, and neither is
its own time of issue one, if it is a response of the protocol.

The other attributes that hold times do not belong on a document element, and no rule looks at
them there (`clean_despite_limit`).

## Main definitions

* `Timely`: What an element states in an attribute is a universal time.

## Theorems

* `DataTypes.timesFindings_eq_nil_iff`: What the rule about types vouches for.
* `Assertion.timely_of_silent`, `StatusResponse.timely_of_silent`: The times of issue that other
  rules vouch for.
* `Session.times_of_clean`: The times in a clean message.
-/

namespace SamlConformance

open Xml (Element)

/-- If an element has the attribute, it states a universal time in it. -/
def Timely (e : Element) (name : String) : Prop :=
  ∀ value, e.attribute? name = some value → Values.isUniversalTime value = true

namespace DataTypes

theorem timeFindings_eq_nil_iff (e : Element) (name : String) :
    timeFindings e name = [] ↔ Timely e name := by
  unfold timeFindings Timely
  cases h : e.attribute? name with
  | none => exact iff_of_true rfl fun value hvalue => absurd hvalue.symm (Option.some_ne_none _)
  | some value => simp only [Values.timeFindings_eq_nil_iff, Option.some.injEq, forall_eq']

/-- The rule about types vouches for the four attributes on all elements it looks at, and for
the time of issue on those that are no assertions. -/
theorem timesFindings_eq_nil_iff (e : Element) :
    timesFindings e = [] ↔ (∀ name ∈ timeAttributes, Timely e name) ∧
      (¬ e.is Saml.assertionNs "Assertion" = true → Timely e "IssueInstant") := by
  rw [timesFindings, List.append_eq_nil_iff, List.flatMap_eq_nil_iff]
  simp only [timeFindings_eq_nil_iff]
  refine and_congr_right fun _ => ?_
  by_cases h : e.is Saml.assertionNs "Assertion" = true
  · rw [if_pos h]
    exact iff_of_true rfl fun hnot => absurd h hnot
  · rw [if_neg h, timeFindings_eq_nil_iff, imp_iff_right h]

theorem timesFindings_of_silent (r : Reply) (h : (check r).violations = []) :
    ∀ e ∈ r.root.descendants, timesFindings e = [] := by
  rw [check, Outcome.violations_report, List.append_eq_nil_iff, List.append_eq_nil_iff] at h
  exact List.flatMap_eq_nil_iff.mp h.1.2

end DataTypes

/-- The rule about assertions vouches for their times of issue: it looks at the time of every
assertion that has what is asked for before, and it fails where one has not. -/
theorem Assertion.timely_of_silent (r : Reply) (h : (checkStructure r).violations = []) :
    ∀ a ∈ Saml.assertionsBelow r.root, Timely a "IssueInstant" := by
  intro a ha value hvalue
  rw [checkStructure, Outcome.violations_all_eq_nil_iff, List.forall_mem_map] at h
  obtain ⟨hfindings, hfailure⟩ := List.append_eq_nil_iff.mp (h a ha)
  -- A check that does not fail has come to the time, and reports what is wrong with it.
  obtain ⟨hformed, -, -, hreports⟩ := structureOf_spec a
  have hnone : (structureOf a).failure = none := Option.toList_eq_nil_iff.mp hfailure
  have hissued := hreports (hformed.mp hnone)
  rw [hfindings] at hissued
  obtain ⟨time, htime, huniversal⟩ :=
    (Duty.issueReports_eq_nil_iff (hformed.mp hnone).dated).mp hissued.symm
  rw [htime] at hvalue
  rwa [← Option.some.inj hvalue]

/-- The rule about responses vouches for the time of issue of the document element. -/
theorem StatusResponse.timely_of_silent (r : Reply) (h : (checkHead r).violations = [])
    (hresponse : Saml.isStatusResponse r.root = true) : Timely r.root "IssueInstant" := by
  intro value hvalue
  obtain ⟨-, -, -, ⟨time, htime, huniversal⟩, -⟩ := (checkHead_eq_nil_iff r).mp h hresponse
  rw [htime] at hvalue
  rwa [← Option.some.inj hvalue]

namespace Session

/-- What a clean verdict says about times. Below the document element, at any depth and on
elements of any type, every value of one of the five attributes is a universal time, and so is
the time of issue of the document element, if it is a response of the protocol. -/
theorem times_of_clean (s : Session) (j : Judge) (w : Worker) (m : Message) (request : Request)
    (h : (s.verify j w m request).1 = []) :
    (∀ e ∈ m.root.descendants,
      ∀ name ∈ ["IssueInstant", "NotBefore", "NotOnOrAfter", "AuthnInstant",
        "SessionNotOnOrAfter"],
      ∀ value, e.attribute? name = some value → Values.isUniversalTime value = true) ∧
    (Saml.isStatusResponse m.root = true →
      ∀ value, m.root.attribute? "IssueInstant" = some value →
        Values.isUniversalTime value = true) := by
  have hsilent := silent_of_verify s j w request m h
  have hcore := hsilent RuleGroup.core List.mem_cons_self
  have hprotocol := hsilent RuleGroup.protocol (List.mem_cons_of_mem _ List.mem_cons_self)
  refine ⟨?_, ?_⟩
  · intro e he name hname
    have htypes := DataTypes.timesFindings_of_silent _ (hcore DataTypes.rule List.mem_cons_self)
    obtain ⟨hfour, hissue⟩ := (DataTypes.timesFindings_eq_nil_iff e).mp (htypes e he)
    rcases List.mem_cons.mp hname with rfl | hname
    · -- The time of issue is the only one that two rules share.
      by_cases hassertion : e.is Saml.assertionNs "Assertion" = true
      · have hstructure := hcore ⟨"assertion_structure", Assertion.checkStructure⟩ (by
          simp only [RuleGroup.core, Assertion.rules, List.mem_append, List.mem_cons, true_or,
            or_true])
        exact Assertion.timely_of_silent _ hstructure e (List.mem_filter.mpr ⟨he, hassertion⟩)
      · exact hissue hassertion
    · exact hfour name hname
  · exact StatusResponse.timely_of_silent _
      (hprotocol ⟨"status_response", StatusResponse.checkHead⟩ List.mem_cons_self)

/-- A response with times at every place where they belong. -/
def timedResponse : String :=
  "<p:ArtifactResponse xmlns:p=\"urn:oasis:names:tc:SAML:2.0:protocol\"
    xmlns=\"urn:oasis:names:tc:SAML:2.0:assertion\" ID=\"_1\" InResponseTo=\"_0\" Version=\"2.0\"
    IssueInstant=\"2020-01-01T00:00:00Z\"><p:Status><p:StatusCode
    Value=\"urn:oasis:names:tc:SAML:2.0:status:Success\"/></p:Status><Assertion ID=\"_2\"
    Version=\"2.0\" IssueInstant=\"2020-01-01T00:00:00.5Z\"><Issuer>idp</Issuer><Subject/><Conditions
    NotBefore=\"2020-01-01T00:00:00Z\" NotOnOrAfter=\"2020-01-01T00:05:00Z\"/><AuthnStatement
    AuthnInstant=\"2020-01-01T00:00:00Z\"
    SessionNotOnOrAfter=\"2020-01-01T08:00:00Z\"/></Assertion></p:ArtifactResponse>"

/-- Its verdict is clean, and so its times are universal: five of them below the document
element. -/
theorem times_of_clean_timedResponse :
    ∃ m, Message.decode none (.posted timedResponse) = .ok m ∧
      (Session.verify {} ⟨⟨"idp", [], [], none⟩, none, false⟩ 0 m
        { id := "_0", acsUrl := "https://sp" }).1 = [] ∧
      (["IssueInstant", "NotBefore", "NotOnOrAfter", "AuthnInstant", "SessionNotOnOrAfter"].all
        fun name => m.root.descendants.any fun e => (e.attribute? name).isSome) = true ∧
      (∀ e ∈ m.root.descendants, ∀ value, e.attribute? "AuthnInstant" = some value →
        Values.isUniversalTime value = true) ∧
      ∀ value, m.root.attribute? "IssueInstant" = some value →
        Values.isUniversalTime value = true := by
  obtain ⟨root, hparse, hresponse, hstated, hsilent⟩ : ∃ root,
      Xml.parse timedResponse = .ok root ∧ Saml.isStatusResponse root = true ∧
      (["IssueInstant", "NotBefore", "NotOnOrAfter", "AuthnInstant", "SessionNotOnOrAfter"].all
        fun name => root.descendants.any fun e => (e.attribute? name).isSome) = true ∧
      ((RuleGroup.groups .post).flatMap fun g =>
        g.run ⟨⟨.posted timedResponse, .response, timedResponse, root, []⟩,
          { id := "_0", acsUrl := "https://sp" }, ⟨"idp", [], [], none⟩⟩) = [] := by
    refine Xml.exists_parse_eq_ok _ _ ?_
    rw [timedResponse, Xml.parse_ofList]
    decide +kernel
  have hclean : (Session.verify {} ⟨⟨"idp", [], [], none⟩, none, false⟩ 0
      ⟨.posted timedResponse, .response, timedResponse, root, []⟩
      { id := "_0", acsUrl := "https://sp" }).1 = [] := by
    rw [verify_eq]
    exact hsilent
  obtain ⟨hbelow, hroot⟩ := times_of_clean _ _ _ _ _ hclean
  exact ⟨_, Message.decode_posted none timedResponse root hparse, hclean, hstated,
    fun e he => hbelow e he "AuthnInstant" (by decide), hroot hresponse⟩

/-- A response that states an error, and a limit where none belongs. -/
def limitedResponse : String :=
  "<p:Response xmlns:p=\"urn:oasis:names:tc:SAML:2.0:protocol\" ID=\"_1\" InResponseTo=\"_0\"
    Version=\"2.0\" IssueInstant=\"2020-01-01T00:00:00Z\" NotBefore=\"yesterday\"><p:Status><p:StatusCode
    Value=\"urn:oasis:names:tc:SAML:2.0:status:Responder\"/></p:Status></p:Response>"

/-- Its verdict is clean, although the limit on the document element is no time. -/
theorem clean_despite_limit :
    ∃ m, Message.decode none (.posted limitedResponse) = .ok m ∧
      (Session.verify {} ⟨⟨"idp", [], [], none⟩, none, false⟩ 0 m
        { id := "_0", acsUrl := "https://sp" }).1 = [] ∧
      m.root.attribute? "NotBefore" = some "yesterday" ∧
      Values.isUniversalTime "yesterday" = false := by
  obtain ⟨root, hparse, hlimit, hsilent⟩ : ∃ root, Xml.parse limitedResponse = .ok root ∧
      root.attribute? "NotBefore" = some "yesterday" ∧
      ((RuleGroup.groups .post).flatMap fun g =>
        g.run ⟨⟨.posted limitedResponse, .response, limitedResponse, root, []⟩,
          { id := "_0", acsUrl := "https://sp" }, ⟨"idp", [], [], none⟩⟩) = [] := by
    refine Xml.exists_parse_eq_ok _ _ ?_
    rw [limitedResponse, Xml.parse_ofList]
    decide +kernel
  refine ⟨_, Message.decode_posted none limitedResponse root hparse, ?_, hlimit, by decide⟩
  rw [verify_eq]
  exact hsilent

end Session

end SamlConformance
