import Mathlib.Logic.Relation
import SamlConformance.Proofs.Judge.Accounting
import SamlConformance.Proofs.Message.Fields
import SamlConformance.Proofs.Message.QuerySignature

/-!
# Only First Values Count

Whoever sends a response can repeat its parameters, put them in any order and add others.
The parts of a run look into the fields one by one and at different times: for the payload,
for the encoding, for the text that is signed, for the relay state. If two of them took
different occurrences of one name, a signature could be checked over a value that is not the
one that is judged.

They all take the first. So responses that agree on the first values of the parameters that
their binding reads cannot be told apart by any answer. Which parameters these are differs:
a form has no signature beside its document, and a control that bears the name of one is a
control like any other.

A message remembers the fields it came from, and rules go back to them. So it has to be
shown of decoding and of every rule apart that nothing else of the fields comes in.

## Main definitions

* `Saml.Parameter.readOn`: The parameters that are read on a binding.
* `Received.Agree`: Two responses agree in what is read.
* `Fields.Rearranged`: One change to fields that leaves the first values.

## Theorems

* `Message.decode_of_agree`: Responses that agree hold the same message.
* `RuleGroup.run_of_agree`: No rule tells them apart.
* `Judge.judge_of_agree`: They are judged alike.
* `Fields.get?_of_rearranged`: First values are left as they are.
* `Reply.isSigned_of_post`: What counts as signed in a form.
* `Session.answer_by_first_values`: All of it, for any two runs.
-/

namespace SamlConformance

/-- The parameters that are read of a response on a binding. -/
def Saml.Parameter.readOn : Saml.Binding → List Saml.Parameter
  | .redirect => [.response, .request, .relayState, .signatureAlgorithm, .signature, .encoding]
  | .post => [.response, .request, .relayState]

/-- Two responses agree in what is read: the binding, the status, whether a relay state was
sent, and the first values of the parameters that are read on the binding. -/
structure Received.Agree (r r' : Received) : Prop where
  /-- They arrived on one binding. -/
  binding : r'.binding = r.binding
  /-- Their transport has one status. -/
  status : r'.status = r.status
  /-- A relay state was sent in both tests or in none. -/
  relayStateGiven : r'.relayStateGiven = r.relayStateGiven
  /-- What is read is the same, or is missing in both. -/
  values : ∀ p ∈ Saml.Parameter.readOn r.binding, r'.get? p = r.get? p

section

variable {r r' : Received} (h : r.Agree r')

include h

theorem Received.payload?_of_agree : r'.payload? = r.payload? := by
  have hresponse := h.values .response (by cases r.binding <;> decide)
  have hrequest := h.values .request (by cases r.binding <;> decide)
  rw [Received.payload?, hresponse, hrequest, Received.payload?]

/-- The parameters of a redirect, as they are asked for by name. -/
theorem Received.get?_of_agree (hredirect : r.binding = .redirect) (p : Saml.Parameter) :
    r'.fields.get? p.name = r.fields.get? p.name :=
  h.values p (by rw [hredirect]; cases p <;> decide)

theorem Redirect.checkEncoding_of_agree (hredirect : r.binding = .redirect) :
    Redirect.checkEncoding r'.fields = Redirect.checkEncoding r.fields := by
  rw [Redirect.checkEncoding, Received.get?_of_agree h hredirect, Redirect.checkEncoding]

theorem Message.checkEncoding_of_agree : Message.checkEncoding r' = Message.checkEncoding r := by
  rw [Message.checkEncoding, h.binding, Message.checkEncoding]
  cases hb : r.binding with
  | post => rfl
  | redirect => exact Redirect.checkEncoding_of_agree h hb

theorem Message.payloadBytes_of_agree (payload : String) :
    Message.payloadBytes r' payload = Message.payloadBytes r payload := by
  rw [Message.payloadBytes, h.binding, Message.payloadBytes]
  cases hb : r.binding with
  | post => rfl
  | redirect =>
      simp only [Redirect.decode]
      rw [Redirect.checkEncoding_of_agree h hb]

/-- The text that is signed, and everything that is asked about its signature, is made of
the same values. -/
theorem Message.signatureFinding?_of_agree (kind : MessageKind) (check : Option SignatureCheck) :
    Message.signatureFinding? r' kind check = Message.signatureFinding? r kind check := by
  rw [Message.signatureFinding?, h.binding, Message.signatureFinding?]
  cases hb : r.binding with
  | post => rfl
  | redirect =>
      exact querySignatureFinding?_congr (fun p _ => Received.get?_of_agree h hb p) kind check

/-- Responses that agree hold the same message, but for the fields it came with. -/
theorem Message.decode_of_agree (check : Option SignatureCheck) :
    Message.decode check r' = (Message.decode check r).map fun m => { m with received := r' } :=
  Message.decode_congr check h.binding (Message.checkEncoding_of_agree h)
    (Received.payload?_of_agree h) (Message.payloadBytes_of_agree h)
    fun kind => Message.signatureFinding?_of_agree h kind check

end

/-- The reply with other fields, and the same message. -/
def Reply.arrivedAs (r : Reply) (received : Received) : Reply :=
  { r with message := { r.message with received := received } }

/-- Groups find the same in replies which all their rules find the same in. -/
theorem RuleGroup.run_congr (g : RuleGroup) (r r' : Reply)
    (h : ∀ rule ∈ g.rules, rule.check r' = rule.check r) : g.run r' = g.run r := by
  rw [run, Rule.runAll, List.map_congr_left h]
  rfl

section

variable {r : Reply} {received : Received} (h : r.message.received.Agree received)

include h

theorem Reply.hasQuerySignature_of_agree :
    (r.arrivedAs received).message.hasQuerySignature = r.message.hasQuerySignature := by
  have hbinding : (r.arrivedAs received).message.received.binding = r.message.received.binding :=
    h.binding
  rw [Message.hasQuerySignature, hbinding, Message.hasQuerySignature]
  cases hb : r.message.received.binding with
  | post => rfl
  | redirect =>
      have hsignature := h.values .signature (by rw [hb]; decide)
      rw [Received.has, Received.has, ← hsignature]
      rfl

theorem Reply.isSigned_of_agree : (r.arrivedAs received).isSigned = r.isSigned := by
  rw [isSigned, Reply.hasQuerySignature_of_agree h, isSigned]
  rfl

theorem Reply.relayStateGiven_of_agree :
    (r.arrivedAs received).relayStateGiven = r.relayStateGiven := by
  rw [relayStateGiven, relayStateGiven, ← h.relayStateGiven]
  rfl

/-- The rules about sign-on ask whether a response is signed, and for its binding. -/
theorem SignOn.check_of_agree :
    ∀ rule ∈ SignOn.rules, rule.check (r.arrivedAs received) = rule.check r := by
  have hroot : (r.arrivedAs received).root = r.root := rfl
  have hmetadata : (r.arrivedAs received).metadata = r.metadata := rfl
  have hbinding : (r.arrivedAs received).message.received.binding = r.message.received.binding :=
    h.binding
  simp only [SignOn.rules, List.forall_mem_cons]
  refine ⟨?_, ?_, rfl, rfl, rfl, rfl, ?_, List.forall_mem_nil _⟩
  · rw [SignOn.checkBinding, hbinding, hroot, SignOn.checkBinding]
  · have hissuers : SignOn.issuersFault? (r.arrivedAs received) = SignOn.issuersFault? r := by
      simp only [SignOn.issuersFault?, Reply.isSigned_of_agree h, hroot, hmetadata]
    rw [SignOn.onSuccess, hissuers, hroot, SignOn.onSuccess]
  · have hsignature : SignOn.signatureFault? (r.arrivedAs received) = SignOn.signatureFault? r := by
      simp only [SignOn.signatureFault?, hbinding, hroot]
    rw [SignOn.onSuccess, hsignature, hroot, SignOn.onSuccess]

/-- The rules about logout ask whether a message is signed. -/
theorem Logout.checkProfile_of_agree (name title : String) (signed issued : Clause) :
    Logout.checkProfile name title signed issued (r.arrivedAs received) =
      Logout.checkProfile name title signed issued r := by
  rw [Logout.checkProfile, Reply.isSigned_of_agree h, Logout.checkProfile]
  rfl

/-- The rules about redirects ask for the status, the relay state and the encoding, and
whether the query is signed. -/
theorem Transport.redirectRules_of_agree (hb : r.message.received.binding = .redirect) :
    ∀ rule ∈ Transport.redirectRules, rule.check (r.arrivedAs received) = rule.check r := by
  have hvalue : ∀ p, (r.arrivedAs received).message.received.get? p =
      r.message.received.get? p := Received.get?_of_agree h hb
  have hstatus : (r.arrivedAs received).message.received.status = r.message.received.status :=
    h.status
  have hrequest : (r.arrivedAs received).request = r.request := rfl
  simp only [Transport.redirectRules, List.forall_mem_cons]
  refine ⟨?_, ?_, ?_, rfl, ?_, List.forall_mem_nil _⟩
  · rw [Transport.redirectStatus, hstatus, Transport.redirectStatus]
  · rw [Transport.redirectRelayState, hvalue, Reply.relayStateGiven_of_agree h, hrequest,
      Transport.redirectRelayState]
  · rw [Transport.redirectEncoding, hvalue, Transport.redirectEncoding]
  · rw [Transport.redirectDestination, Reply.hasQuerySignature_of_agree h,
      Transport.redirectDestination]
    rfl

/-- The rules about forms ask for the status and the relay state. -/
theorem Transport.postRules_of_agree :
    ∀ rule ∈ Transport.postRules, rule.check (r.arrivedAs received) = rule.check r := by
  have hvalue : (r.arrivedAs received).message.received.get? .relayState =
      r.message.received.get? .relayState :=
    h.values .relayState (by cases r.message.received.binding <;> decide)
  have hstatus : (r.arrivedAs received).message.received.status = r.message.received.status :=
    h.status
  have hrequest : (r.arrivedAs received).request = r.request := rfl
  simp only [Transport.postRules, List.forall_mem_cons]
  refine ⟨?_, ?_, rfl, List.forall_mem_nil _⟩
  · rw [Transport.postStatus, hstatus, Transport.postStatus]
  · rw [Transport.postRelayState, hvalue, Reply.relayStateGiven_of_agree h, hrequest,
      Transport.postRelayState]

/-- No group that runs on a message finds anything else with fields that agree. -/
theorem RuleGroup.run_of_agree {g : RuleGroup} (hg : g ∈ groups r.message.received.binding) :
    g.run (r.arrivedAs received) = g.run r := by
  simp only [groups, List.mem_cons, List.not_mem_nil, or_false] at hg
  rcases hg with rfl | rfl | rfl | rfl
  · -- These two groups look at nothing but the document, the request and the provider.
    rfl
  · rfl
  · refine run_congr profile r _ (List.forall_mem_append.mpr ⟨SignOn.check_of_agree h, ?_⟩)
    exact List.forall_mem_cons.mpr ⟨Logout.checkProfile_of_agree h _ _ _ _,
      List.forall_mem_singleton.mpr (Logout.checkProfile_of_agree h _ _ _ _)⟩
  · refine run_congr _ r _ ?_
    cases hb : r.message.received.binding with
    | redirect => exact Transport.redirectRules_of_agree h hb
    | post => exact Transport.postRules_of_agree h

end

/-- Responses that agree are judged alike. -/
theorem Judge.judge_of_agree {r r' : Received} (h : r.Agree r') (j : Judge) (request : Request) :
    j.judge r' request = j.judge r request := by
  unfold Judge.judge
  rw [h.status, Message.decode_of_agree h]
  cases hd : Message.decode j.signatureCheck? r with
  | error e => rfl
  | ok m =>
      have hm := Message.received_of_decode _ r m hd
      have hagree : m.received.Agree r' := by rw [hm]; exact h
      have hrun : (RuleGroup.groups m.received.binding).flatMap (fun g => g.run
            (Reply.arrivedAs ⟨m, request, j.metadata⟩ r')) =
          (RuleGroup.groups m.received.binding).flatMap fun g => g.run ⟨m, request, j.metadata⟩ :=
        List.flatMap_congr fun g hg => RuleGroup.run_of_agree hagree hg
      have hreply : Judgment.ofReply (Reply.arrivedAs ⟨m, request, j.metadata⟩ r') =
          Judgment.ofReply ⟨m, request, j.metadata⟩ := by
        have hbinding : (Reply.arrivedAs ⟨m, request, j.metadata⟩ r').message.received.binding =
            m.received.binding := hagree.binding
        simp only [Judgment.ofReply, hbinding, hrun]
        rfl
      simp only [Except.map]
      rw [← hreply]
      rfl

namespace Fields

/-- One change to fields that leaves the first value of every name that is read: two
neighbours of different names change places, a field is added somewhere behind one of its
name, or one that is not read is added anywhere. -/
inductive Rearranged (read : List String) : Fields → Fields → Prop where
  /-- Two neighbours change places. -/
  | swapped (before after : Fields) (f g : String × String) (h : f.1 ≠ g.1) :
      Rearranged read (before ++ f :: g :: after) (before ++ g :: f :: after)
  /-- A field is repeated, with any value. -/
  | repeated (before after : Fields) (name value : String) (h : before.has name = true) :
      Rearranged read (before ++ after) (before ++ (name, value) :: after)
  /-- A field that is not read is added. -/
  | added (before after : Fields) (name value : String) (h : name ∉ read) :
      Rearranged read (before ++ after) (before ++ (name, value) :: after)

theorem get?_append (before after : Fields) (name : String) :
    (before ++ after).get? name = (before.get? name).or (after.get? name) :=
  List.lookup_append

theorem get?_cons_of_ne {key name : String} (value : String) (rest : Fields) (h : name ≠ key) :
    get? ((key, value) :: rest) name = rest.get? name := by
  rw [get?, List.lookup_cons, beq_false_of_ne h]
  rfl

theorem get?_of_rearranged {read : List String} {fields fields' : Fields}
    (h : Rearranged read fields fields') {name : String} (hread : name ∈ read) :
    fields'.get? name = fields.get? name := by
  cases h with
  | swapped before after f g hne =>
      rw [get?_append, get?_append]
      refine congrArg _ ?_
      -- The name is not that of both, so one of the two is passed over.
      by_cases hf : name = f.1
      · have hg : name ≠ g.1 := fun hg => hne (hf.symm.trans hg)
        rw [get?_cons_of_ne g.2 _ hg]
        rw [hf, get?, get?, List.lookup_cons_self, List.lookup_cons_self]
      · rw [get?_cons_of_ne f.2 _ hf]
        by_cases hg : name = g.1
        · rw [hg, get?, get?, List.lookup_cons_self, List.lookup_cons_self]
        · rw [get?_cons_of_ne g.2 _ hg, get?_cons_of_ne g.2 _ hg, get?_cons_of_ne f.2 _ hf]
  | repeated before after key value hkey =>
      rw [get?_append, get?_append]
      by_cases hname : name = key
      · rw [hname, Option.or_of_isSome hkey, Option.or_of_isSome hkey]
      · rw [get?_cons_of_ne value _ hname]
  | added before after key value hkey =>
      have hname : name ≠ key := fun heq => hkey (heq ▸ hread)
      rw [get?_append, get?_append, get?_cons_of_ne value _ hname]

/-- Any number of changes, in any direction. -/
theorem get?_of_eqvGen {read : List String} {fields fields' : Fields}
    (h : Relation.EqvGen (Rearranged read) fields fields') {name : String} (hread : name ∈ read) :
    fields'.get? name = fields.get? name := by
  induction h with
  | rel _ _ hstep => exact get?_of_rearranged hstep hread
  | refl _ => rfl
  | symm _ _ _ ih => exact ih.symm
  | trans _ _ _ _ _ ih₁ ih₂ => exact ih₂.trans ih₁

end Fields

/-- A form is signed by a signature in its document and by nothing else. -/
theorem Reply.isSigned_of_post (r : Reply) (h : r.message.received.binding = .post) :
    r.isSigned = r.root.hasChild Saml.signatureNs "Signature" := by
  have hnone : r.message.hasQuerySignature = false := by
    rw [Message.hasQuerySignature, h]
    rfl
  rw [isSigned, hnone, Bool.or_false]

/-- The names of the parameters that only redirects have. -/
def Saml.Parameter.ofQueries : List String :=
  [signatureAlgorithm, signature, encoding].map name

/-- The answer to a response is determined by the first values of what its binding reads,
whatever the sessions and the workers. It is the same for responses that agree; it stays the
same when fields of different names change places, when a name is repeated later, and when
fields are added that are not read. Of a form the parameters of queries are not read: they
can all be left out, and no control makes a message count as signed. -/
theorem Session.answer_by_first_values (s s' : Session) (j : Judge) (w w' : Worker)
    (request : Request) :
    (∀ r r' : Received, r.Agree r' → (s'.run j w' r' request).1 = (s.run j w r request).1) ∧
    (∀ (r : Received) (fields : Fields), Relation.EqvGen
        (Fields.Rearranged ((Saml.Parameter.readOn r.binding).map Saml.Parameter.name))
        r.fields fields →
      (s'.run j w' { r with fields := fields } request).1 = (s.run j w r request).1) ∧
    ∀ r : Received, r.binding = .post →
      (s'.run j w' { r with fields := r.fields.without Saml.Parameter.ofQueries } request).1 =
          (s.run j w r request).1 ∧
        ∀ m, Message.decode j.signatureCheck? r = .ok m →
          Reply.isSigned ⟨m, request, j.metadata⟩ =
            m.root.hasChild Saml.signatureNs "Signature" := by
  have hagree : ∀ r r' : Received, r.Agree r' →
      (s'.run j w' r' request).1 = (s.run j w r request).1 := by
    intro r r' h
    rw [run_eq, run_eq, Judge.judge_of_agree h]
    cases j.judge r request <;> rfl
  -- Changed fields, and a form without some of them, are responses that agree.
  refine ⟨hagree, ?_, ?_⟩
  · intro r fields hfields
    refine hagree r _ ⟨rfl, rfl, rfl, ?_⟩
    intro p hp
    exact Fields.get?_of_eqvGen hfields (List.mem_map.mpr ⟨p, hp, rfl⟩)
  · intro r hpost
    refine ⟨hagree r _ ⟨rfl, rfl, rfl, ?_⟩, ?_⟩
    · intro p hp
      have hread : p.name ∉ Saml.Parameter.ofQueries := by
        rw [hpost] at hp
        revert hp
        cases p <;> decide
      exact (Fields.get?_without _ r.fields p.name).trans (if_neg hread)
    · intro m hm
      refine Reply.isSigned_of_post _ ?_
      rw [← hpost, ← Message.received_of_decode _ r m hm]

end SamlConformance
