import SamlConformance.Proofs.Judge.Chapters
import SamlConformance.Proofs.Message.Payloads
import SamlConformance.Proofs.Message.RoundTrip

/-!
# How a Relay State Is Judged

The text that was sent along with a request comes back with the response, and it must be
the same text, and no longer than the limit. A limit in bytes is met or missed by bytes, not
by characters, and a query is read as form data first, where a plus sign is a space and an
escaped one is a plus sign. A value that is no text once its escapes are resolved is never
right, whether a text was sent or not, and its length is not asked for.

Nothing else about a response matters. The rule stands behind the one about the status of
the transport, which reports and does not fail, and it is the only one that breaches these
clauses: what the other rules of the group can breach does not contain them, and no other
group covers their sections. So the verdict has a clause about the relay state exactly if
this rule has.

Whoever writes a text of at most that many bytes into a query by escaping it, or puts it
into a form as it is, has returned it.

## Main definitions

* `Received.relayState?`: The text that comes back with a response.
* `Transport.relayStateLength`: The clause about its length.
* `Transport.judgeRelayState`: The rule about relay states, by binding.
* `Transport.Returned`: A text came back as it should.

## Theorems

* `Transport.breached_relayStateLength_iff`: When a relay state is too long.
* `Transport.judgeRelayState_eq_nil_iff`: When nothing is wrong with it.
* `RuleGroup.breached_binding_iff`: The other rules of the group have no say.
* `Session.breached_verify_iff_relayState`: Neither has anything else.
* `Session.relay_state_judged`: What the verdict on a message says about its relay state.
-/

namespace SamlConformance

/-- The text that comes back with a response: what its first value stands for. In a query
this may be no text. -/
def Received.relayState? (r : Received) : Option String :=
  match r.binding with
  | .redirect => (r.get? .relayState).bind Transport.formText?
  | .post => r.get? .relayState

namespace Transport

/-- The clause about the length of a relay state. -/
def relayStateLength : Saml.Binding → Clause
  | .redirect => .bindings_3_4_3_a
  | .post => .bindings_3_5_3_a

/-- The rule about relay states. -/
def judgeRelayState : Saml.Binding → Reply → Outcome
  | .redirect => redirectRelayState
  | .post => postRelayState

/-- The text came back as it should: it is short enough, and the one that was given. -/
@[mk_iff]
structure Returned (text : String) (given : Bool) (expected : String) : Prop where
  /-- It is not longer than the limit. -/
  short : text.utf8ByteSize ≤ Saml.relayStateLimit
  /-- It is what was given, if anything was. -/
  same : given = true → text = expected

variable {c : Clause}

theorem lengthFindings_eq_nil_iff (text : String) :
    lengthFindings text c = [] ↔ text.utf8ByteSize ≤ Saml.relayStateLimit := by
  unfold lengthFindings
  simp only [gt_iff_lt]
  by_cases h : Saml.relayStateLimit < text.utf8ByteSize
  · rw [if_pos h]
    exact iff_of_false (List.cons_ne_nil _ _) (Nat.not_le_of_lt h)
  · rw [if_neg h]
    exact iff_of_true rfl (Nat.le_of_not_lt h)

/-- The clause about the length is breached in front of what else is said about a text if
and only if the text is too long. -/
theorem breached_lengthFindings_append_iff (text : String) {rest : List Violation}
    (hrest : ¬ Breached rest c) :
    Breached (lengthFindings text c ++ rest) c ↔ Saml.relayStateLimit < text.utf8ByteSize := by
  rw [breached_append_iff, or_iff_left hrest]
  unfold lengthFindings
  simp only [gt_iff_lt]
  by_cases h : Saml.relayStateLimit < text.utf8ByteSize
  · rw [if_pos h, breached_singleton_iff]
    exact iff_of_true List.mem_cons_self h
  · rw [if_neg h]
    exact iff_of_false not_breached_nil h

theorem missingFindings_eq_nil_iff (given : Bool) :
    missingFindings given c = [] ↔ given = false := by
  cases given with
  | false => exact iff_of_true rfl rfl
  | true => exact iff_of_false (List.cons_ne_nil _ _) (Bool.noConfusion)

theorem redirectEchoFindings_eq_nil_iff (raw decoded expected : String) :
    redirectEchoFindings raw decoded expected = [] ↔ decoded = expected := by
  unfold redirectEchoFindings
  by_cases h : decoded = expected
  · rw [if_pos h]
    exact iff_of_true rfl h
  · rw [if_neg h]
    refine iff_of_false ?_ h
    split
    · exact List.cons_ne_nil _ _
    · exact List.cons_ne_nil _ _

theorem breached_relayStateOutcome_iff (relayState : Option String) (given : Bool)
    (expected : String) :
    Breached (relayStateOutcome relayState given expected).violations .bindings_3_4_3_a ↔
      ∃ text, relayState.bind formText? = some text ∧
        Saml.relayStateLimit < text.utf8ByteSize := by
  -- All else that is said about a relay state breaches one of two other clauses.
  have hother : ∀ vs, OnlyBreach vs [.bindings_3_4_3_b, .bindings_3_4_4_1_d] →
      ¬ Breached vs .bindings_3_4_3_a := fun vs h => h.not_breached (by decide)
  unfold relayStateOutcome
  cases relayState with
  | none =>
      have hmissing := hother (missingFindings given .bindings_3_4_3_b)
        (onlyBreach_missingFindings given (by decide))
      simp only [Outcome.violations_report, hmissing, Option.bind_none, reduceCtorEq, false_and,
        exists_false]
  | some raw =>
      simp only [Option.bind_some]
      cases formText? raw with
      | none =>
          simp only [Outcome.violations_report, reduceCtorEq, false_and, exists_false, iff_false]
          exact hother _ (onlyBreach_of _ (by decide))
      | some decoded =>
          simp only [Option.some.injEq, exists_eq_left', Outcome.violations_report]
          refine breached_lengthFindings_append_iff decoded (hother _ ?_)
          split
          · exact onlyBreach_redirectEchoFindings raw decoded expected (by decide) (by decide)
          · exact onlyBreach_nil

theorem relayStateOutcome_eq_nil_iff (relayState : Option String) (given : Bool)
    (expected : String) :
    (relayStateOutcome relayState given expected).violations = [] ↔
      relayState = none ∧ given = false ∨
        ∃ text, relayState.bind formText? = some text ∧ Returned text given expected := by
  unfold relayStateOutcome
  cases relayState with
  | none =>
      simp only [Outcome.violations_report, missingFindings_eq_nil_iff, Option.bind_none,
        reduceCtorEq, false_and, exists_false, or_false, true_and]
  | some raw =>
      simp only [Option.bind_some, reduceCtorEq, false_and, false_or]
      cases formText? raw with
      | none =>
          -- What is no text is wrong even if nothing was given.
          simp only [Outcome.violations_report, List.cons_ne_nil, reduceCtorEq, false_and,
            exists_false]
      | some decoded =>
          simp only [Option.some.injEq, exists_eq_left', Outcome.violations_report,
            List.append_eq_nil_iff, lengthFindings_eq_nil_iff, returned_iff]
          cases given with
          | false => simp only [Bool.false_eq_true, if_false, false_implies]
          | true => simp only [if_true, redirectEchoFindings_eq_nil_iff, forall_const]

theorem breached_postRelayState_iff (r : Reply) :
    Breached (postRelayState r).violations .bindings_3_5_3_a ↔
      ∃ text, r.message.received.get? .relayState = some text ∧
        Saml.relayStateLimit < text.utf8ByteSize := by
  have hother : ∀ vs, OnlyBreach vs [.bindings_3_5_3_b] → ¬ Breached vs .bindings_3_5_3_a :=
    fun vs h => h.not_breached (by decide)
  unfold postRelayState
  cases r.message.received.get? .relayState with
  | none =>
      have hmissing := hother (missingFindings r.relayStateGiven .bindings_3_5_3_b)
        (onlyBreach_missingFindings _ (by decide))
      simp only [Outcome.violations_report, hmissing, reduceCtorEq, false_and, exists_false]
  | some value =>
      simp only [Option.some.injEq, exists_eq_left', Outcome.violations_report]
      refine breached_lengthFindings_append_iff value (hother _ ?_)
      split
      · exact onlyBreach_of _ (by decide)
      · exact onlyBreach_nil

theorem postRelayState_eq_nil_iff (r : Reply) :
    (postRelayState r).violations = [] ↔
      r.message.received.get? .relayState = none ∧ r.relayStateGiven = false ∨
        ∃ text, r.message.received.get? .relayState = some text ∧
          Returned text r.relayStateGiven r.request.relayState := by
  unfold postRelayState
  cases r.message.received.get? .relayState with
  | none =>
      simp only [Outcome.violations_report, missingFindings_eq_nil_iff, reduceCtorEq, false_and,
        exists_false, or_false, true_and]
  | some value =>
      simp only [reduceCtorEq, false_and, false_or, Option.some.injEq, exists_eq_left',
        Outcome.violations_report, List.append_eq_nil_iff, lengthFindings_eq_nil_iff, returned_iff]
      refine and_congr_right fun _ => ?_
      cases r.relayStateGiven with
      | false => exact iff_of_true rfl fun h => absurd h Bool.false_ne_true
      | true =>
          simp only [Bool.true_and, bne_iff_ne, ne_eq, ite_eq_right_iff, List.cons_ne_nil,
            imp_false, not_not, forall_const]

/-- A relay state is too long if and only if the text that comes back is. -/
theorem breached_relayStateLength_iff (r : Reply) :
    Breached (judgeRelayState r.message.received.binding r).violations
        (relayStateLength r.message.received.binding) ↔
      ∃ text, r.message.received.relayState? = some text ∧
        Saml.relayStateLimit < text.utf8ByteSize := by
  unfold Received.relayState?
  cases r.message.received.binding with
  | redirect => exact breached_relayStateOutcome_iff _ _ _
  | post => exact breached_postRelayState_iff r

/-- Nothing is wrong with a relay state if and only if there is none and none was given, or
a text came back as it should. -/
theorem judgeRelayState_eq_nil_iff (r : Reply) :
    (judgeRelayState r.message.received.binding r).violations = [] ↔
      r.message.received.get? .relayState = none ∧ r.relayStateGiven = false ∨
        ∃ text, r.message.received.relayState? = some text ∧
          Returned text r.relayStateGiven r.request.relayState := by
  unfold Received.relayState?
  cases r.message.received.binding with
  | redirect => exact relayStateOutcome_eq_nil_iff _ _ _
  | post => exact postRelayState_eq_nil_iff r

theorem onlyBreach_judgeRelayState (b : Saml.Binding) (r : Reply) :
    OnlyBreach (judgeRelayState b r).violations (relayStateClauses b) := by
  cases b with
  | redirect => exact onlyBreach_relayStateOutcome _ _ _
  | post => exact onlyBreach_postRelayState r

theorem failure_redirectStatus (r : Reply) : (redirectStatus r).failure = none := by
  unfold redirectStatus
  simp only
  split <;> rfl

theorem failure_postStatus (r : Reply) : (postStatus r).failure = none := by
  unfold postStatus
  simp only
  split <;> rfl

end Transport

namespace RuleGroup

open Transport

/-- In the group of a binding, what the rule about relay states finds about them is what the
group finds: the rule before it does not fail, and the others breach other clauses. -/
theorem breached_binding_iff (b : Saml.Binding) (r : Reply) (c : Clause)
    (hc : c ∈ relayStateClauses b) :
    Breached ((binding b).run r) c ↔ Breached (judgeRelayState b r).violations c := by
  cases b with
  | redirect =>
      have hothers : ∀ vs, OnlyBreach vs [.bindings_3_4_6_a, .bindings_3_4_4_a, .core_1_3_2_a,
          .bindings_3_4_4_1_a, .bindings_3_4_5_2_a] → ¬ Breached vs c := by
        intro vs h
        refine h.not_breached ?_
        revert c
        decide
      refine Outcome.breached_all_iff [redirectStatus r]
        [redirectEncoding r, redirectSignature r, redirectDestination r] ?_ ?_
      · exact List.forall_mem_singleton.mpr (failure_redirectStatus r)
      · simp only [List.cons_append, List.nil_append, List.forall_mem_cons]
        exact ⟨hothers _ (onlyBreach_redirectStatus r (by decide)),
          hothers _ (onlyBreach_redirectEncoding r (by decide) (by decide)),
          hothers _ (onlyBreach_redirectSignature r (by decide)),
          hothers _ (onlyBreach_redirectDestination r (by decide)), List.forall_mem_nil _⟩
  | post =>
      have hothers : ∀ vs, OnlyBreach vs [.bindings_3_5_6_a, .bindings_3_5_5_2_a] →
          ¬ Breached vs c := by
        intro vs h
        refine h.not_breached ?_
        revert c
        decide
      refine Outcome.breached_all_iff [postStatus r] [postDestination r] ?_ ?_
      · exact List.forall_mem_singleton.mpr (failure_postStatus r)
      · simp only [List.cons_append, List.nil_append, List.forall_mem_cons]
        exact ⟨hothers _ (onlyBreach_postStatus r (by decide)),
          hothers _ (onlyBreach_postDestination r (by decide)), List.forall_mem_nil _⟩

/-- Decoding notes nothing about relay states, and no other group covers their clauses. -/
theorem relayStateClauses_apart (b : Saml.Binding) : ∀ c ∈ relayStateClauses b,
    c ∉ b.breachedByPayload ++ b.breachedBySignature ∧
      ∀ g ∈ [core, protocol, profile], c ∉ g.covered := by
  simp only [mem_covered_iff]
  cases b <;> decide

end RuleGroup

namespace Session

open Transport

section

variable (s : Session) (j : Judge) (w : Worker) (check : Option SignatureCheck)
variable (received : Received) (m : Message) (request : Request)
variable (hm : Message.decode check received = .ok m)

include hm

/-- Neither decoding nor another rule has a say in what is found about the relay state. -/
theorem breached_verify_iff_relayState (c : Clause) (hc : c ∈ relayStateClauses received.binding) :
    Breached (s.verify j w m request).1 c ↔
      Breached (judgeRelayState received.binding ⟨m, request, j.metadata⟩).violations c := by
  obtain ⟨hnoted, hgroups⟩ := RuleGroup.relayStateClauses_apart received.binding c hc
  have hrun := s.breached_verify_iff_run j w check received m request hm
    [.core, .protocol, .profile] [] rfl c hnoted (by rwa [List.append_nil])
  exact hrun.trans (RuleGroup.breached_binding_iff _ _ c hc)

/-- The verdict has the clause about the length if and only if the text is too long. -/
theorem breached_verify_relayStateLength_iff :
    Breached (s.verify j w m request).1 (relayStateLength received.binding) ↔
      ∃ text, received.relayState? = some text ∧ Saml.relayStateLimit < text.utf8ByteSize := by
  have hmem : ∀ b, relayStateLength b ∈ relayStateClauses b := by
    intro b
    cases b <;> decide
  have hlength := breached_relayStateLength_iff ⟨m, request, j.metadata⟩
  rw [Message.received_of_decode check received m hm] at hlength
  rw [breached_verify_iff_relayState s j w check received m request hm _ (hmem _)]
  exact hlength

/-- The verdict has no clause about the relay state if and only if nothing is wrong with it. -/
theorem not_breached_relayStateClauses_iff :
    (∀ c ∈ relayStateClauses received.binding, ¬ Breached (s.verify j w m request).1 c) ↔
      received.get? .relayState = none ∧
          (request.relayStateGiven || received.relayStateGiven) = false ∨
        ∃ text, received.relayState? = some text ∧
          Returned text (request.relayStateGiven || received.relayStateGiven)
            request.relayState := by
  -- The rule breaches no other clauses, so it is silent if it breaches none of these.
  have hverify := fun c hc =>
    not_congr (breached_verify_iff_relayState s j w check received m request hm c hc)
  have hjudge := judgeRelayState_eq_nil_iff ⟨m, request, j.metadata⟩
  rw [Reply.relayStateGiven, Message.received_of_decode check received m hm] at hjudge
  rw [forall₂_congr hverify, ← (onlyBreach_judgeRelayState _ _).eq_nil_iff]
  exact hjudge

/-- A text of at most the limit that is what was sent comes back as it should. -/
theorem not_breached_of_echo (htext : received.relayState? = some request.relayState)
    (hshort : request.relayState.utf8ByteSize ≤ Saml.relayStateLimit) :
    ∀ c ∈ relayStateClauses received.binding, ¬ Breached (s.verify j w m request).1 c := by
  rw [not_breached_relayStateClauses_iff s j w check received m request hm]
  exact Or.inr ⟨request.relayState, htext, hshort, fun _ => rfl⟩

end

/-- A query that was made to carry a text carries it. -/
theorem relayState?_receivedWith (deflate : List UInt8 → List UInt8) (xml : String)
    (kind : MessageKind) (text : String) (status : Nat) (given : Bool) :
    (Redirect.receivedWith deflate xml kind (some text) status given).relayState? = some text := by
  have hvalue : (Redirect.receivedWith deflate xml kind (some text) status given).get?
      .relayState = some (Percent.encode text) := by
    -- The payload stands in front of it, under another name.
    unfold Received.get? Redirect.receivedWith
    simp only [Redirect.get?_parametersWith]
    cases kind <;> rfl
  have hbinding : (Redirect.receivedWith deflate xml kind (some text) status given).binding =
      .redirect := rfl
  simp only [Received.relayState?, hbinding, hvalue, Option.bind_some, formText?,
    Percent.decodeForm_encode]

/-- What the verdict on a message says about its relay state, whatever the status of the
transport, the document and all other findings. It has the clause about the length if and
only if there is a text, and it has more than 80 bytes. It has none of the clauses about
relay states if and only if there is no value and none was given, or there is a text of at
most 80 bytes, and it is the one that was given, if one was. So a text of at most 80 bytes
is accepted from a query that was made to carry it, and from a form in which it stands. -/
theorem relay_state_judged (s : Session) (j : Judge) (w : Worker)
    (check : Option SignatureCheck) (request : Request) :
    (∀ received m, Message.decode check received = .ok m →
      let found := (s.verify j w m request).1
      let given := request.relayStateGiven || received.relayStateGiven
      (Breached found (relayStateLength received.binding) ↔
        ∃ text, received.relayState? = some text ∧ 80 < text.utf8ByteSize) ∧
      ((∀ c ∈ relayStateClauses received.binding, ¬ Breached found c) ↔
        received.get? .relayState = none ∧ given = false ∨
          ∃ text, received.relayState? = some text ∧ text.utf8ByteSize ≤ 80 ∧
            (given = true → text = request.relayState))) ∧
    (request.relayState.utf8ByteSize ≤ 80 →
      (∀ deflate, (∀ bytes, Deflate.inflate (deflate bytes) = .ok bytes) →
        ∀ xml kind root, Xml.parse xml = .ok root → ∀ status given,
          let received : Received := ⟨.redirect, status,
            Fields.ofQuery (Redirect.encodeWith deflate xml kind (some request.relayState)), given⟩
          ∃ m, Message.decode check received = .ok m ∧ m.root = root ∧
            ∀ c ∈ relayStateClauses .redirect, ¬ Breached (s.verify j w m request).1 c) ∧
      ∀ received m, received.binding = .post →
        received.get? .relayState = some request.relayState →
        Message.decode check received = .ok m →
          ∀ c ∈ relayStateClauses .post, ¬ Breached (s.verify j w m request).1 c) := by
  refine ⟨?_, fun hshort => ⟨?_, ?_⟩⟩
  · intro received m hm found given
    refine ⟨breached_verify_relayStateLength_iff s j w check received m request hm, ?_⟩
    rw [not_breached_relayStateClauses_iff s j w check received m request hm]
    simp only [returned_iff]
    rfl
  · intro deflate hdeflate xml kind root hroot status given received
    -- The query is cut into the payload and the text, whatever either of them contains.
    have hreceived : received =
        Redirect.receivedWith deflate xml kind (some request.relayState) status given := by
      simp only [received, Redirect.ofQuery_encodeWith]
      rfl
    have hdecode := Redirect.decode_receivedWith deflate xml kind (some request.relayState)
      hdeflate check status given
    rw [hroot, ← hreceived] at hdecode
    refine ⟨_, hdecode, rfl, ?_⟩
    refine not_breached_of_echo s j w check received _ request hdecode ?_ hshort
    rw [hreceived]
    exact relayState?_receivedWith deflate xml kind request.relayState status given
  · intro received m hpost hvalue hm
    have htext : received.relayState? = some request.relayState := by
      rw [Received.relayState?, hpost]
      exact hvalue
    have haccepted := not_breached_of_echo s j w check received m request hm htext hshort
    rwa [hpost] at haccepted

/-- A text of 80 bytes in 60 characters, of which a plus sign and a space need an escape. -/
def longestEcho : String :=
  String.ofList (List.replicate 20 ['ü', '+', ' ']).flatten

/-- It is accepted from a query and from a form, and a form with one byte more is not. -/
theorem relay_state_judged_longestEcho :
    longestEcho.utf8ByteSize = 80 ∧
    let request : Request :=
      { id := "_0", acsUrl := "https://sp", relayState := longestEcho, relayStateGiven := true }
    let verdict := fun m => (Session.verify {} ⟨⟨"idp", [], [], none⟩, none, false⟩ 0 m request).1
    let form := fun text : String => (⟨.post, 200,
      [("SAMLResponse", Post.encode "<a/>"), ("RelayState", text)], true⟩ : Received)
    (∃ m, Message.decode none ⟨.redirect, 302, Fields.ofQuery
        (Redirect.encodeWith Deflate.store "<a/>" .response (some longestEcho)), true⟩ = .ok m ∧
      ∀ c ∈ relayStateClauses .redirect, ¬ Breached (verdict m) c) ∧
    (∃ m, Message.decode none (form longestEcho) = .ok m ∧
      ∀ c ∈ relayStateClauses .post, ¬ Breached (verdict m) c) ∧
    ∃ m, Message.decode none (form (longestEcho ++ "x")) = .ok m ∧
      Breached (verdict m) .bindings_3_5_3_a := by
  have hsize : longestEcho.utf8ByteSize = 80 := by decide +kernel
  have hlonger : 80 < (longestEcho ++ "x").utf8ByteSize := by decide +kernel
  refine ⟨hsize, ?_⟩
  intro request verdict form
  obtain ⟨root, hroot, -⟩ : ∃ root, Xml.parse "<a/>" = .ok root ∧ root.children = [] := by
    refine Xml.exists_parse_eq_ok _ _ ?_
    rw [Xml.parse_ofList]
    decide +kernel
  have hform : ∀ text, Message.decode none (form text) =
      .ok ⟨form text, .response, "<a/>", root, []⟩ := by
    intro text
    rw [Message.decode_carried none (form text) .response "<a/>" (by decide) rfl rfl
      (fun h => absurd h (by decide)), hroot]
  obtain ⟨hjudged, haccepted⟩ :=
    relay_state_judged {} ⟨⟨"idp", [], [], none⟩, none, false⟩ 0 none request
  obtain ⟨hquery, hecho⟩ := haccepted (Nat.le_of_eq hsize)
  refine ⟨?_, ⟨_, hform longestEcho, hecho _ _ rfl rfl (hform longestEcho)⟩, _,
    hform (longestEcho ++ "x"), ?_⟩
  · obtain ⟨m, hm, -, hnone⟩ :=
      hquery Deflate.store Deflate.inflate_store "<a/>" .response root hroot 302 true
    exact ⟨m, hm, hnone⟩
  · exact (hjudged _ _ (hform (longestEcho ++ "x"))).1.mpr ⟨_, rfl, hlonger⟩

end Session

end SamlConformance
