import SamlConformance.Proofs.Judge.Accounting

/-!
# Clean Verdicts

What may be concluded if judging a response finds nothing. No violation at all means
that there is a message and that no rule of any group has anything to say about it, and
each rule that is silent vouches for what it looks at.

A rule first asks whether a message is any of its business. Those about responses look
at elements of the protocol whose names end like that of a response, and pass over
everything else. Hence a clean verdict on such an element says that it answers the
request, while on other elements it says no more than that they belong to the right
version (`clean_without_response`).

## Main definitions

* `Answers`: An element answers a request, as the protocol wants it.

## Theorems

* `StatusResponse.checkHead_eq_nil_iff`, `StatusResponse.checkStatus_eq_nil_iff`: What
  the rules about responses of the protocol vouch for.
* `Versions.namespaceVersion_eq_nil_iff`: What the rule about namespaces vouches for.
* `Session.silent_of_verify`: A clean verdict is one that no rule breaks.
* `Session.silent_of_run`: A clean verdict is one on a message that no rule objects to.
* `Session.answers_of_clean`: Status responses with a clean verdict answer the request.
-/

namespace SamlConformance

open Xml (Element)

/-- An element answers a request: it has an identifier, refers to the request, is of the
right version, was issued at some universal time, and its status begins with one of the
four codes at the top. -/
structure Answers (root : Element) (request : Request) : Prop where
  /-- There is an identifier. -/
  identified : (root.attribute? "ID").isSome
  /-- The answer is to the request. -/
  addressed : root.attribute? "InResponseTo" = some request.id
  /-- The version is the right one. -/
  version : root.attribute? "Version" = some "2.0"
  /-- The time of issue is stated in universal time. -/
  issued : ∃ time, root.attribute? "IssueInstant" = some time ∧ Values.isUniversalTime time
  /-- The first code of the status is one of the four. -/
  status : ∃ status code, ∃ top : Saml.StatusCode,
    root.child? Saml.protocolNs "Status" = some status ∧
    status.child? Saml.protocolNs "StatusCode" = some code ∧
    code.attribute? "Value" = some top.uri

namespace StatusResponse

theorem mismatchFindings_eq_nil_iff (c : Clause) (property : String) (actual : Option String)
    (expected : String) :
    mismatchFindings c property actual expected = [] ↔ actual = some expected := by
  unfold mismatchFindings
  by_cases h : actual = some expected
  · rw [if_pos h]
    exact iff_of_true rfl h
  · rw [if_neg h]
    exact iff_of_false (List.cons_ne_nil _ _) h

theorem issuedFindings_eq_nil_iff (root : Element) :
    issuedFindings root = [] ↔
      ∃ time, root.attribute? "IssueInstant" = some time ∧ Values.isUniversalTime time := by
  unfold issuedFindings
  cases h : root.attribute? "IssueInstant" with
  | none =>
      refine iff_of_false (List.cons_ne_nil _ _) ?_
      rintro ⟨time, htime, _⟩
      exact Option.some_ne_none time htime.symm
  | some issued =>
      rw [Values.timeFindings_eq_nil_iff]
      constructor
      · intro htime
        exact ⟨issued, rfl, htime⟩
      · rintro ⟨time, heq, htime⟩
        rw [Option.some.inj heq]
        exact htime

theorem destinationFindings_eq_nil_iff (root : Element) (acsUrl : String) :
    destinationFindings root acsUrl = [] ↔
      ∀ d, root.attribute? "Destination" = some d → Values.isUri d ∧ d = acsUrl := by
  unfold destinationFindings
  cases h : root.attribute? "Destination" with
  | none =>
      refine iff_of_true rfl ?_
      intro d hd
      exact absurd hd.symm (Option.some_ne_none d)
  | some d =>
      simp only [List.append_eq_nil_iff, Values.uriFindings_eq_nil_iff,
        mismatchFindings_eq_nil_iff, Option.any_some, Option.some.injEq, forall_eq']

/-- The first of these rules is silent about a status response if and only if its
attributes are as demanded. -/
theorem checkHead_eq_nil_iff (r : Reply) :
    (checkHead r).violations = [] ↔ (Saml.isStatusResponse r.root = true →
      (r.root.attribute? "ID").isSome ∧
      r.root.attribute? "InResponseTo" = some r.request.id ∧
      r.root.attribute? "Version" = some Saml.version ∧
      (∃ time, r.root.attribute? "IssueInstant" = some time ∧ Values.isUniversalTime time) ∧
      ∀ d, r.root.attribute? "Destination" = some d → Values.isUri d ∧ d = r.request.acsUrl) := by
  by_cases hresponse : Saml.isStatusResponse r.root = true
  · rw [imp_iff_right hresponse]
    simp only [checkHead, hresponse, Bool.not_true, Bool.false_eq_true, if_false]
    cases hid : r.root.attribute? "ID" with
    | none =>
        -- Without an identifier the rule fails.
        exact iff_of_false (List.cons_ne_nil _ _) (fun h => absurd h.1 Bool.false_ne_true)
    | some id =>
        simp only [Bool.false_eq_true, if_false, Option.isNone_some, Outcome.violations_report,
          List.append_eq_nil_iff, mismatchFindings_eq_nil_iff, issuedFindings_eq_nil_iff,
          destinationFindings_eq_nil_iff, Option.isSome_some, true_and, and_assoc]
  · refine iff_of_true ?_ (fun h => absurd h hresponse)
    simp only [checkHead, hresponse, Bool.not_false, if_true]
    rfl

theorem topStatusFindings_eq_nil_iff (root status : Element) :
    topStatusFindings root status = [] ↔ (Saml.topStatus? root).any Saml.StatusCode.isTopLevel := by
  unfold topStatusFindings
  by_cases h : (Saml.topStatus? root).any Saml.StatusCode.isTopLevel = true
  · exact iff_of_true (if_pos h) h
  · refine iff_of_false ?_ h
    simp only [h, Bool.false_eq_true, if_false, List.cons_ne_nil, not_false_eq_true]

/-- The second of these rules is silent about a status response if and only if it has a
status whose first code is one of those at the top, and all values in it are of their
types. -/
theorem checkStatus_eq_nil_iff (r : Reply) :
    (checkStatus r).violations = [] ↔ (Saml.isStatusResponse r.root = true →
      ∃ status, r.root.child? Saml.protocolNs "Status" = some status ∧
        (Saml.topStatus? r.root).any Saml.StatusCode.isTopLevel ∧
        statusValueFindings status = []) := by
  by_cases hresponse : Saml.isStatusResponse r.root = true
  · rw [imp_iff_right hresponse]
    simp only [checkStatus, hresponse, Bool.not_true, Bool.false_eq_true, if_false]
    cases hstatus : r.root.child? Saml.protocolNs "Status" with
    | none =>
        refine iff_of_false (List.cons_ne_nil _ _) ?_
        rintro ⟨status, heq, _⟩
        exact Option.some_ne_none status heq.symm
    | some status =>
        simp only [Outcome.violations_report, List.append_eq_nil_iff,
          topStatusFindings_eq_nil_iff, Option.some.injEq, exists_eq_left']
  · refine iff_of_true ?_ (fun h => absurd h hresponse)
    simp only [checkStatus, hresponse, Bool.not_false, if_true]
    rfl

end StatusResponse

/-- A code at the top of the status is the value of its first code. -/
theorem Saml.topStatus?_eq_some_iff (root : Element) (value : String) :
    topStatus? root = some value ↔ ∃ status code,
      root.child? protocolNs "Status" = some status ∧
      status.child? protocolNs "StatusCode" = some code ∧
      code.attribute? "Value" = some value := by
  unfold topStatus?
  simp only [Option.bind_eq_bind, Option.bind_eq_some_iff, exists_and_left]

/-- A code at the top is one of the four. -/
theorem Saml.StatusCode.isTopLevel_iff (value : String) :
    isTopLevel value = true ↔ ∃ top : StatusCode, top.uri = value := by
  rw [isTopLevel, List.any_eq_true]
  constructor
  · rintro ⟨top, _, h⟩
    exact ⟨top, beq_iff_eq.mp h⟩
  · rintro ⟨top, h⟩
    exact ⟨top, by cases top <;> decide, beq_iff_eq.mpr h⟩

/-- The rule about namespaces is silent if and only if the namespace of the document
element names the right version, and no element has one of an earlier version. -/
theorem Versions.namespaceVersion_eq_nil_iff (r : Reply) :
    (namespaceVersion r).violations = [] ↔ r.root.tag.name.uri.any isCurrent ∧
      ∀ e ∈ r.root.self, ¬ e.tag.name.uri.any isOutdated := by
  unfold namespaceVersion
  have hnone : (outdated? r.root).isNone ↔ ∀ e ∈ r.root.self, ¬ e.tag.name.uri.any isOutdated := by
    rw [Option.isNone_iff_eq_none, outdated?, List.find?_eq_none]
  rw [← hnone, ← Bool.and_eq_true]
  cases h : r.root.tag.name.uri.any isCurrent && (outdated? r.root).isNone with
  | false => exact iff_of_false (List.cons_ne_nil _ _) Bool.false_ne_true
  | true => exact iff_of_true rfl rfl

/-- A status response about which the rules of the protocol are silent answers the
request. -/
theorem answers_of_silent (r : Reply) (hresponse : Saml.isStatusResponse r.root = true)
    (hhead : (StatusResponse.checkHead r).violations = [])
    (hstatus : (StatusResponse.checkStatus r).violations = []) : Answers r.root r.request := by
  obtain ⟨hid, hto, hversion, hissued, _⟩ :=
    (StatusResponse.checkHead_eq_nil_iff r).mp hhead hresponse
  obtain ⟨_, _, htop, _⟩ := (StatusResponse.checkStatus_eq_nil_iff r).mp hstatus hresponse
  obtain ⟨value, hvalue, hlevel⟩ := (Option.any_eq_true _ _).mp htop
  obtain ⟨status, code, hchild, hcode, hattribute⟩ :=
    (Saml.topStatus?_eq_some_iff r.root value).mp hvalue
  obtain ⟨top, rfl⟩ := (Saml.StatusCode.isTopLevel_iff value).mp hlevel
  exact ⟨hid, hto, hversion, hissued, status, code, top, hchild, hcode, hattribute⟩

namespace Session

variable (s : Session) (j : Judge) (w : Worker) (received : Received) (request : Request)

/-- A message with a clean verdict is one that no rule of any group objects to. -/
theorem silent_of_verify (m : Message) (h : (s.verify j w m request).1 = []) :
    ∀ g ∈ RuleGroup.groups m.received.binding, ∀ rule ∈ g.rules,
      (rule.check ⟨m, request, j.metadata⟩).violations = [] := by
  rw [verify_eq] at h
  have hfound := (List.append_eq_nil_iff.mp h).2
  rw [List.flatMap_eq_nil_iff] at hfound
  intro g hg
  exact (RuleGroup.run_eq_nil_iff g _).mp (hfound g hg)

/-- If nothing is passed over, a clean verdict is one on a message that no rule of any
group objects to. -/
theorem silent_of_run (hlenient : j.lenient = false)
    (h : (s.run j w received request).1 = .ok []) :
    ∃ m, Message.decode j.signatureCheck? received = .ok m ∧
      ∀ g ∈ RuleGroup.groups received.binding, ∀ rule ∈ g.rules,
        (rule.check ⟨m, request, j.metadata⟩).violations = [] := by
  have hpass : ¬ j.passesOver received.status = true := by
    rw [Judge.passesOver, hlenient, Bool.false_and, Bool.false_and]
    exact Bool.false_ne_true
  cases hd : Message.decode j.signatureCheck? received with
  | error e =>
      by_cases henv : e.isEnvironmental = true
      · rw [run_of_environmental s j w received request hpass e hd henv] at h
        exact absurd h (by simp only [reduceCtorEq, not_false_eq_true])
      · -- Any other failure to decode is a violation.
        rw [run_of_decodeError s j w received request hpass e hd henv] at h
        rcases violation?_of_not_environmental e henv with ⟨v, hv, _⟩
        rw [hv] at h
        exact absurd (Except.ok.inj h) (List.cons_ne_nil _ _)
  | ok m =>
      rw [run_of_message s j w received request hpass m hd] at h
      have hsilent := silent_of_verify s j w request m (by rw [verify_eq]; exact Except.ok.inj h)
      rw [Message.received_of_decode _ received m hd] at hsilent
      exact ⟨m, rfl, hsilent⟩

/-- What a clean verdict means, where no response is passed over. There is a message; its
document element is of a namespace that names the right version, and no element of it
has one of an earlier version; and if it is a status response of the protocol, it
answers the request. -/
theorem answers_of_clean (hlenient : j.lenient = false)
    (h : (s.run j w received request).1 = .ok []) :
    ∃ m, Message.decode j.signatureCheck? received = .ok m ∧
      (∃ uri, m.root.tag.name.uri = some uri ∧ Text.occursIn "2.0" uri) ∧
      (∀ e ∈ m.root.self, ¬ e.tag.name.uri.any Versions.isOutdated) ∧
      (Saml.isStatusResponse m.root = true → Answers m.root request) := by
  obtain ⟨m, hm, hsilent⟩ := silent_of_run s j w received request hlenient h
  have hnamespace := (Versions.namespaceVersion_eq_nil_iff _).mp
    (hsilent RuleGroup.core List.mem_cons_self ⟨"namespaces", Versions.namespaceVersion⟩
      (by simp only [RuleGroup.core, Versions.rules, List.mem_append, List.mem_cons, or_true,
        true_or]))
  obtain ⟨uri, huri, hcurrent⟩ := (Option.any_eq_true _ _).mp hnamespace.1
  refine ⟨m, hm, ⟨uri, huri, hcurrent⟩, hnamespace.2, ?_⟩
  intro hresponse
  have hprotocol := hsilent RuleGroup.protocol (List.mem_cons_of_mem _ List.mem_cons_self)
  exact answers_of_silent ⟨m, request, j.metadata⟩ hresponse
    (hprotocol ⟨"status_response", StatusResponse.checkHead⟩ List.mem_cons_self)
    (hprotocol ⟨"status_code", StatusResponse.checkStatus⟩
      (List.mem_cons_of_mem _ List.mem_cons_self))

/-- The verdict on a document in a form is what the groups of rules find in it. -/
theorem run_posted (xml : String) (root : Element) (h : Xml.parse xml = .ok root) :
    (s.run j w (.posted xml) request).1 = .ok ((RuleGroup.groups .post).flatMap fun g =>
      g.run ⟨⟨.posted xml, .response, xml, root, []⟩, request, j.metadata⟩) := by
  have hpass : ¬ j.passesOver (Received.posted xml).status = true := by
    have hstatus : decide (400 ≤ (Received.posted xml).status) = false := rfl
    rw [Judge.passesOver, hstatus, Bool.and_false, Bool.false_and]
    exact Bool.false_ne_true
  rw [run_of_message s j w (.posted xml) request hpass _ (Message.decode_posted _ xml root h)]
  rfl

/-- A response that states an error, and answers the request `_0`. -/
def errorResponse : String :=
  "<p:Response xmlns:p=\"urn:oasis:names:tc:SAML:2.0:protocol\" ID=\"_1\" InResponseTo=\"_0\"
    Version=\"2.0\" IssueInstant=\"2020-01-01T00:00:00Z\"><p:Status><p:StatusCode
    Value=\"urn:oasis:names:tc:SAML:2.0:status:Responder\"/></p:Status></p:Response>"

/-- A response that states an error can have a clean verdict, and then answers the
request. -/
theorem answers_of_clean_errorResponse :
    ∃ root, Xml.parse errorResponse = .ok root ∧ Saml.isStatusResponse root = true ∧
      (Session.run {} ⟨⟨"idp", [], [], none⟩, none, false⟩ 0 (.posted errorResponse)
        { id := "_0", acsUrl := "https://sp" }).1 = .ok [] ∧
      Answers root { id := "_0", acsUrl := "https://sp" } := by
  obtain ⟨root, hparse, hresponse, hsilent⟩ : ∃ root, Xml.parse errorResponse = .ok root ∧
      Saml.isStatusResponse root = true ∧ ((RuleGroup.groups .post).flatMap fun g =>
        g.run ⟨⟨.posted errorResponse, .response, errorResponse, root, []⟩,
          { id := "_0", acsUrl := "https://sp" }, ⟨"idp", [], [], none⟩⟩) = [] := by
    refine Xml.exists_parse_eq_ok _ _ ?_
    rw [errorResponse, Xml.parse_ofList]
    decide +kernel
  have hclean := run_posted {} ⟨⟨"idp", [], [], none⟩, none, false⟩ 0
    { id := "_0", acsUrl := "https://sp" } errorResponse root hparse
  rw [hsilent] at hclean
  obtain ⟨m, hm, _, _, hanswers⟩ := answers_of_clean _ _ _ _ _ rfl hclean
  rw [Message.decode_posted _ errorResponse root hparse] at hm
  rw [← Except.ok.inj hm] at hanswers
  exact ⟨root, hparse, hresponse, hclean, hanswers hresponse⟩

/-- An element that is no status response can have a clean verdict although it has none
of what makes an answer. -/
theorem clean_without_response :
    ∃ root, Xml.parse "<x xmlns=\"urn:2.0\"/>" = .ok root ∧
      Saml.isStatusResponse root = false ∧
      (Session.run {} ⟨⟨"idp", [], [], none⟩, none, false⟩ 0 (.posted "<x xmlns=\"urn:2.0\"/>")
        { id := "_0", acsUrl := "https://sp" }).1 = .ok [] ∧
      root.attribute? "ID" = none ∧ root.attribute? "InResponseTo" = none ∧
      root.child? Saml.protocolNs "Status" = none := by
  obtain ⟨root, hparse, hresponse, hsilent, hid, hto, hstatus⟩ :
      ∃ root, Xml.parse "<x xmlns=\"urn:2.0\"/>" = .ok root ∧
      Saml.isStatusResponse root = false ∧ ((RuleGroup.groups .post).flatMap fun g =>
        g.run ⟨⟨.posted "<x xmlns=\"urn:2.0\"/>", .response, "<x xmlns=\"urn:2.0\"/>", root, []⟩,
          { id := "_0", acsUrl := "https://sp" }, ⟨"idp", [], [], none⟩⟩) = [] ∧
      root.attribute? "ID" = none ∧ root.attribute? "InResponseTo" = none ∧
      (root.child? Saml.protocolNs "Status").isNone := by
    refine Xml.exists_parse_eq_ok _ _ ?_
    rw [Xml.parse_ofList]
    decide +kernel
  refine ⟨root, hparse, hresponse, ?_, hid, hto, Option.isNone_iff_eq_none.mp hstatus⟩
  rw [run_posted _ _ _ _ _ root hparse, hsilent]

end Session

end SamlConformance
