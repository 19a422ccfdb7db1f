import SamlConformance.Proofs.Judge.Chapters
import SamlConformance.Proofs.Message.QuerySignature
import SamlConformance.Proofs.Message.RoundTrip

/-!
# What Counts as Checked

A section that was checked and held no violation is to be successful, and only what was not
checked is to be skipped. For the sections that a group of rules declares this is so: they
are marked before the group runs, whatever it finds.

Decoding checks things too, and marks nothing. The bytes of a payload are read as text and
as XML, which is the matter of a section of its own, and the verifier is asked about the
signature of a query, which is the matter of two. So these three sections show a failure
where there is one, and are left as they were where the check went well: a report whose
checks all succeeded calls them skipped. The statements here say exactly what becomes of
them, and the last theorem shows a run that leaves all three skipped after their checks.

## Main definitions

* `QuerySignature.Asked`: The parameters of a signature are fit to ask the verifier.
* `Judge.Consulted`: The verifier is called on the query of a response.
* `Judge.groupsFor`: The groups whose sections are marked.

## Theorems

* `querySignatureFinding?_of_asked`: What is found is the verdict on the answer.
* `Judgment.status_ofReply`: Outcomes of sections that no group declares.
* `Judge.status_schema`, `Judge.status_of_consulted`: The outcomes of the three sections.
* `Session.statuses_of_run`: The statuses after any run that judges a response.
* `Session.checked_but_skipped`: Three sections that were checked and are skipped.
-/

namespace SamlConformance

namespace QuerySignature

/-- The verifier can be asked about the signature of a query: its algorithm is given and
known, and its value is given and can be read. -/
structure Asked (fields : Fields) (rawAlgorithm rawSignature uri : String)
    (signature : List UInt8) : Prop where
  /-- The algorithm is given. -/
  algorithm : fields.get? Saml.Parameter.signatureAlgorithm.name = some rawAlgorithm
  /-- It is a known one. -/
  known : algorithm? rawAlgorithm = some uri
  /-- The signature is given. -/
  given : fields.get? Saml.Parameter.signature.name = some rawSignature
  /-- It can be read. -/
  value : value rawSignature = .ok signature

/-- What is found about a signature that the verifier is asked about is the verdict on its
answer. -/
theorem querySignatureFinding?_of_asked {fields : Fields} {kind : MessageKind}
    {payload rawAlgorithm rawSignature uri : String} {signature : List UInt8}
    (hpayload : fields.get? kind.parameter.name = some payload)
    (h : Asked fields rawAlgorithm rawSignature uri signature) (check : SignatureCheck) :
    querySignatureFinding? fields kind (some check) =
      verdict rawAlgorithm (check.verifier
        (Utf8.encode (signedText kind payload (fields.get? Saml.Parameter.relayState.name)
          rawAlgorithm)) uri signature check.key) := by
  have hsigned : fields.has Saml.Parameter.signature.name = true := by
    rw [Fields.has, h.given, Option.isSome_some]
  rw [querySignatureFinding?, hsigned, Bool.not_true, Bool.and_false,
    if_neg Bool.false_ne_true, Option.bind_some]
  simp only [finding?, h.algorithm, h.known, h.given, h.value,
    signedQuery?_eq_some fields kind payload rawAlgorithm hpayload h.algorithm]

/-- The outcome that an answer of the verifier gives the section about signatures. -/
def signatureOutcome : Except SignatureError Bool → SectionStatus
  | .ok false => .failed
  | _ => .skipped

/-- The outcome that it gives the section about keys. -/
def keyOutcome : Except SignatureError Bool → SectionStatus
  | .error (.invalidKey _) => .failed
  | _ => .skipped

theorem status_verdict (raw : String) (answer : Except SignatureError Bool) :
    Judgment.status ⟨[], (verdict raw answer).toList⟩ (.whole .general) =
        signatureOutcome answer ∧
      Judgment.status ⟨[], (verdict raw answer).toList⟩ ⟨.bindings, [3, 1]⟩ =
        keyOutcome answer := by
  match answer with
  | .ok true => exact ⟨rfl, rfl⟩
  | .ok false => exact ⟨rfl, rfl⟩
  | .error (.invalidKey _) => exact ⟨rfl, rfl⟩
  | .error (.unsupportedAlgorithm _) => exact ⟨rfl, rfl⟩
  | .error (.encoding _) => exact ⟨rfl, rfl⟩

end QuerySignature

namespace Judgment

/-- Violations that count nowhere within a section do not fail it. -/
theorem any_within_eq_false {vs : List Violation} {t : Section}
    (h : ∀ v ∈ vs, ∀ c ∈ v.clauses, ¬ c.toSection.isWithin t = true) :
    (vs.any fun v => v.sections.any fun u => u.isWithin t) = false := by
  rw [← Bool.not_eq_true, Violation.any_within_iff]
  rintro ⟨v, hv, c, hc, hwithin⟩
  exact h v hv c hc hwithin

/-- A section that no group declares, and that blanks in a payload do not count against,
gets its outcome from the signature of the query alone. -/
theorem status_ofReply {check : Option SignatureCheck} {received : Received} {m : Message}
    (h : Message.decode check received = .ok m) (request : Request) (metadata : IdpMetadata)
    (t : Section)
    (hdeclared : ∀ s ∈ (RuleGroup.groups received.binding).flatMap RuleGroup.sections,
      ¬ s.isWithin t = true)
    (hpayload : ∀ c ∈ received.binding.breachedByPayload, ¬ c.toSection.isWithin t = true) :
    (Judgment.ofReply ⟨m, request, metadata⟩).status t =
      Judgment.status ⟨[], (Message.signatureFinding? received m.kind check).toList⟩ t := by
  rcases (Message.decode_eq_ok_iff check received m).mp h
    with ⟨kind, payload, bytes, found, xml, root, hsteps, rfl⟩
  have hfound : (found.any fun v => v.sections.any fun u => u.isWithin t) = false := by
    refine any_within_eq_false ?_
    intro v hv c hc
    exact hpayload c
      (Message.onlyBreach_payloadBytes received payload bytes found hsteps.unpacked v hv hc)
  have hrules : (((RuleGroup.groups received.binding).flatMap fun g => g.run
      ⟨⟨received, kind, xml, root, found ++ (Message.signatureFinding? received kind check).toList⟩,
        request, metadata⟩).any fun v => v.sections.any fun u => u.isWithin t) = false := by
    refine any_within_eq_false ?_
    intro v hv c hc
    rcases List.mem_flatMap.mp hv with ⟨g, hg, hrun⟩
    exact hdeclared _ (RuleGroup.toSection_mem_sections _ hg _ hrun hc)
  have hmarked : (((RuleGroup.groups received.binding).flatMap RuleGroup.sections).any
      fun u => u.isWithin t) = false := List.any_eq_false.mpr hdeclared
  simp only [status, ofReply, List.any_append, hfound, hrules, hmarked, Bool.false_or,
    Bool.or_false, List.any_nil]

end Judgment

namespace Judge

/-- The verifier is called on the query of a response, with this answer: the response is
decoded, and its query carries what the verifier has to be given. -/
def Consulted (j : Judge) (received : Received) (answer : Except SignatureError Bool) : Prop :=
  ∃ check kind payload bytes found xml root rawAlgorithm rawSignature uri signature,
    j.signatureCheck? = some check ∧ received.binding = .redirect ∧
      Message.Steps received kind payload bytes found xml root ∧
      QuerySignature.Asked received.fields rawAlgorithm rawSignature uri signature ∧
      answer = check.verifier
        (Utf8.encode (signedText kind payload (received.get? .relayState) rawAlgorithm)) uri
        signature check.key

/-- The groups whose sections are marked: all of them if there is a message, and else the
one about the binding. -/
def groupsFor (j : Judge) (received : Received) : List RuleGroup :=
  match Message.decode j.signatureCheck? received with
  | .ok _ => RuleGroup.groups received.binding
  | .error _ => [.binding received.binding]

section

variable {j : Judge} {received : Received} {request : Request} {judgment : Judgment}
variable (hpass : ¬ j.passesOver received.status = true)
variable (h : j.judge received request = .ok judgment)

include hpass h

/-- A judgment is on a message or on a failure to decode. -/
theorem judgment_cases :
    (∃ m, Message.decode j.signatureCheck? received = .ok m ∧
      judgment = .ofReply ⟨m, request, j.metadata⟩) ∨
    ∃ e, Message.decode j.signatureCheck? received = .error e ∧
      ¬ e.isEnvironmental = true ∧ judgment = .ofDecodeError e := by
  unfold judge at h
  rw [if_neg hpass] at h
  split at h
  · rename_i m hm
    exact Or.inl ⟨m, hm, (Except.ok.inj h).symm⟩
  · rename_i e he
    split at h
    · exact absurd h (by simp only [reduceCtorEq, not_false_eq_true])
    · rename_i henv
      exact Or.inr ⟨e, he, henv, (Except.ok.inj h).symm⟩

/-- A judgment marks the sections of these groups. -/
theorem sections_judgment :
    judgment.sections = (j.groupsFor received).flatMap RuleGroup.sections := by
  rcases judgment_cases hpass h with ⟨m, hm, rfl⟩ | ⟨e, he, -, rfl⟩
  · rw [groupsFor, hm, Judgment.ofReply, Message.received_of_decode _ received m hm]
  · rw [groupsFor, he, Judgment.ofDecodeError, Message.decode_error_binding _ received e he]
    exact (List.flatMap_singleton _ _).symm

/-- The check of the document fails its section or leaves it out. -/
theorem status_schema {kind : MessageKind} {payload : String} {bytes : List UInt8}
    {found : List Violation} (hr : Message.Reaches received kind payload bytes found) :
    judgment.status (.whole .schema) =
      match Message.document received.binding bytes with
      | .ok _ => .skipped
      | .error _ => .failed := by
  cases hdocument : Message.document received.binding bytes with
  | error e =>
      have hdecode := Message.decode_error_of_reaches hr j.signatureCheck? hdocument
      rcases judgment_cases hpass h with ⟨m, hm, rfl⟩ | ⟨e', he', henv, rfl⟩
      · rw [hdecode] at hm
        exact absurd hm (by simp only [reduceCtorEq, not_false_eq_true])
      rw [hdecode] at he'
      rw [← Except.error.inj he'] at henv ⊢
      -- The failure breaches the one clause of the section.
      rcases Session.violation?_of_not_environmental e henv with ⟨v, hv, hclauses⟩
      rw [DecodeError.clauses, Message.document_error_kind _ bytes e hdocument] at hclauses
      rw [Judgment.status_eq_failed_iff, Judgment.ofDecodeError, hv]
      exact ⟨v, List.mem_cons_self, .schema, by rw [hclauses]; exact List.mem_cons_self, rfl⟩
  | ok document =>
      have hdecode := Message.decode_ok_of_reaches hr j.signatureCheck? hdocument
      rcases judgment_cases hpass h with ⟨m, hm, rfl⟩ | ⟨e', he', -, rfl⟩
      · have hsignature :=
          Message.onlyBreach_signatureFinding? received m.kind j.signatureCheck?
        rw [Judgment.status_ofReply hm]
        · rw [Judgment.status_eq_skipped_iff]
          refine ⟨?_, fun s hs => absurd hs List.not_mem_nil⟩
          intro v hv c hc
          have hnone : ∀ c ∈ received.binding.breachedBySignature,
              ¬ c.toSection.isWithin (.whole .schema) = true := by
            cases received.binding <;> decide
          exact hnone c (hsignature v hv hc)
        · cases received.binding <;> decide
        · cases received.binding <;> decide
      · rw [hdecode] at he'
        exact absurd he' (by simp only [reduceCtorEq, not_false_eq_true])

/-- The answer of the verifier fails one of its two sections, or leaves both out. -/
theorem status_of_consulted {answer : Except SignatureError Bool}
    (hanswer : j.Consulted received answer) :
    judgment.status (.whole .general) = QuerySignature.signatureOutcome answer ∧
      judgment.status ⟨.bindings, [3, 1]⟩ = QuerySignature.keyOutcome answer := by
  rcases hanswer with ⟨check, kind, payload, bytes, found, xml, root, rawAlgorithm, rawSignature,
    uri, signature, hcheck, hredirect, hsteps, hasked, hverifier⟩
  have hdecode := (Message.decode_eq_ok_iff j.signatureCheck? received _).mpr
    ⟨kind, payload, bytes, found, xml, root, hsteps, rfl⟩
  rcases judgment_cases hpass h with ⟨m, hm, rfl⟩ | ⟨e', he', -, rfl⟩
  · have hkind : m.kind = kind := by
      rw [hdecode] at hm
      rw [← Except.ok.inj hm]
    have hfinding : Message.signatureFinding? received m.kind j.signatureCheck? =
        QuerySignature.verdict rawAlgorithm answer := by
      rw [Message.signatureFinding?, hredirect, hkind, hcheck, hverifier]
      exact QuerySignature.querySignatureFinding?_of_asked
        (received.get?_of_payload? kind payload hsteps.carried) hasked check
    -- Neither section is declared, and blanks count against neither.
    have hstatus : ∀ t : Section,
        (∀ s ∈ (RuleGroup.groups .redirect).flatMap RuleGroup.sections, ¬ s.isWithin t = true) →
        (∀ c ∈ Saml.Binding.redirect.breachedByPayload, ¬ c.toSection.isWithin t = true) →
        (Judgment.ofReply ⟨m, request, j.metadata⟩).status t =
          Judgment.status ⟨[], (QuerySignature.verdict rawAlgorithm answer).toList⟩ t := by
      intro t hdeclared hpayload
      rw [← hredirect] at hdeclared hpayload
      rw [Judgment.status_ofReply hm request j.metadata t hdeclared hpayload, hfinding]
    rcases QuerySignature.status_verdict rawAlgorithm answer with ⟨hgeneral, hkey⟩
    rw [← hgeneral, ← hkey]
    exact ⟨hstatus _ (by decide) (by decide), hstatus _ (by decide) (by decide)⟩
  · rw [hdecode] at he'
    exact absurd he' (by simp only [reduceCtorEq, not_false_eq_true])

end

end Judge

/-- Where a section counts as checked and nothing within it holds a violation, it is
successful. -/
theorem Report.successful_of_exercised (r : Report) {t : Section} (ht : t ∈ r.exercised)
    (hfree : ∀ u ∈ r.keys, ¬ u.isWithin t = true) : r.status t = .successful := by
  cases hs : r.status t with
  | successful => rfl
  | skipped => exact absurd hs (r.not_skipped_of_exercised ht t.isWithin_self)
  | failed =>
      rcases (r.status_eq_failed_iff t).mp hs with ⟨u, hu, hwithin⟩
      exact absurd hwithin (hfree u hu)

namespace Session

/-- A message that is meant for `https://sp`. -/
def meantDocument : String :=
  "<x xmlns=\"urn:2.0\" Destination=\"https://sp\"/>"

/-- A redirect with a signature that can be read. -/
def signedRedirect : Received :=
  ⟨.redirect, 302,
    [(Saml.Parameter.response.name, Redirect.payloadWith Deflate.store meantDocument),
      (Saml.Parameter.signatureAlgorithm.name,
        Percent.encode Saml.SignatureAlgorithm.rsaSha256.uri),
      (Saml.Parameter.signature.name, Percent.encode (Base64.encode [0]))], false⟩

/-- A judge whose verifier takes every signature for good. -/
def acceptingJudge : Judge :=
  ⟨{ entityId := "idp", certificate := some [] }, some fun _ _ _ _ => .ok true, false⟩

theorem reaches_signedRedirect :
    Message.Reaches signedRedirect .response (Redirect.payloadWith Deflate.store meantDocument)
      (Utf8.encode meantDocument) [] where
  encoding := rfl
  carried := rfl
  unpacked := Redirect.decode_of_inflate signedRedirect.fields
    (Deflate.store (Utf8.encode meantDocument)) _ rfl (Deflate.inflate_store _)

theorem document_signedRedirect :
    ∃ root, Message.document .redirect (Utf8.encode meantDocument) = .ok (meantDocument, root) := by
  obtain ⟨root, hparse, -⟩ : ∃ root, Xml.parse meantDocument = .ok root ∧
      root.attribute? "Destination" = some "https://sp" := by
    refine Xml.exists_parse_eq_ok _ _ ?_
    rw [meantDocument, Xml.parse_ofList]
    decide +kernel
  exact ⟨root, by rw [Message.document_encode, hparse]⟩

/-- The verifier is called on the query of this redirect, and says yes. -/
theorem consulted_signedRedirect : acceptingJudge.Consulted signedRedirect (.ok true) := by
  rcases document_signedRedirect with ⟨root, hdocument⟩
  have hr := reaches_signedRedirect
  refine ⟨_, _, _, _, _, meantDocument, root, _, _, Saml.SignatureAlgorithm.rsaSha256.uri, [0],
    rfl, rfl,
    ⟨hr.encoding, hr.carried, hr.unpacked, hdocument⟩, ⟨rfl, ?_, rfl, ?_⟩, rfl⟩
  · exact (QuerySignature.algorithm?_eq_some_iff _ _).mpr
      ⟨Percent.decode_encode Saml.SignatureAlgorithm.rsaSha256.uri, by decide +kernel⟩
  · exact (QuerySignature.value_eq_ok_iff _ _).mpr
      ⟨Percent.decode_encode _, Base64.not_anyBlank_encode [0]⟩

theorem judge_signedRedirect (request : Request) :
    ∃ judgment, acceptingJudge.judge signedRedirect request = .ok judgment := by
  rcases document_signedRedirect with ⟨root, hdocument⟩
  have hdecode := Message.decode_ok_of_reaches reaches_signedRedirect
    acceptingJudge.signatureCheck? hdocument
  have hpass : acceptingJudge.passesOver signedRedirect.status = false := rfl
  exact ⟨_, by rw [Judge.judge, hpass, if_neg Bool.false_ne_true, hdecode]⟩

/-- What a run that judges a response does to the statuses. The sections of the groups that
ran are not skipped, and are successful unless something within them holds a violation.
Where the bytes of the payload reached the check of the document, its section has failed if
the check did, and otherwise is as it was. Where the verifier was called, the section about
signatures has failed if the answer was no, that about keys if the key could not be read,
and otherwise they are as they were. -/
theorem statuses_of_run (s : Session) (j : Judge) (w : Worker) (received : Received)
    (request : Request) (vs : List Violation) (hpass : ¬ j.passesOver received.status = true)
    (h : (s.run j w received request).1 = .ok vs) :
    let before := s.report
    let after := (s.run j w received request).2.report
    (∀ g ∈ j.groupsFor received, ∀ t ∈ g.sections, after.status t ≠ .skipped ∧
      ((∀ u ∈ after.keys, ¬ u.isWithin t = true) → after.status t = .successful)) ∧
    (∀ kind payload bytes found, Message.Reaches received kind payload bytes found →
      after.status (.whole .schema) =
        match Message.document received.binding bytes with
        | .ok _ => before.status (.whole .schema)
        | .error _ => .failed) ∧
    ∀ answer, j.Consulted received answer →
      after.status (.whole .general) =
          (before.status (.whole .general)).graver (QuerySignature.signatureOutcome answer) ∧
        after.status ⟨.bindings, [3, 1]⟩ =
          (before.status ⟨.bindings, [3, 1]⟩).graver (QuerySignature.keyOutcome answer) := by
  have hrun := run_eq s j w received request
  cases hj : j.judge received request with
  | error e =>
      rw [hrun, hj] at h
      exact absurd h (by simp only [reduceCtorEq, not_false_eq_true])
  | ok judgment =>
      rw [hj] at hrun
      rw [hrun]
      refine ⟨?_, ?_, ?_⟩
      · intro g hg t ht
        have hmarked : t ∈ (s.report.add w judgment).exercised := by
          rw [(s.report.gained_add w judgment).exercised, Judge.sections_judgment hpass hj]
          exact Or.inr (List.mem_flatMap.mpr ⟨g, hg, ht⟩)
        exact ⟨Report.not_skipped_of_exercised _ hmarked t.isWithin_self,
          Report.successful_of_exercised _ hmarked⟩
      · intro kind payload bytes found hr
        rw [Report.status_add, Judge.status_schema hpass hj hr]
        cases Message.document received.binding bytes with
        | ok _ => exact SectionStatus.graver_skipped _
        | error _ => exact SectionStatus.graver_failed _
      · intro answer hanswer
        rcases Judge.status_of_consulted hpass hj hanswer with ⟨hgeneral, hkey⟩
        exact ⟨by rw [Report.status_add, hgeneral], by rw [Report.status_add, hkey]⟩

/-- After the run on this redirect the sections of the core rules are not skipped, and
the sections of the checks that went well are as they were in the empty report. -/
theorem statuses_of_run_signedRedirect :
    ∃ vs, ¬ acceptingJudge.passesOver signedRedirect.status = true ∧
      (Session.run {} acceptingJudge 0 signedRedirect { id := "_0", acsUrl := "https://sp" }).1 =
        .ok vs ∧
      let after := (Session.run {} acceptingJudge 0 signedRedirect
        { id := "_0", acsUrl := "https://sp" }).2.report
      (∀ t ∈ RuleGroup.core.sections, after.status t ≠ .skipped) ∧
        after.status (.whole .schema) = .skipped ∧ after.status (.whole .general) = .skipped ∧
        after.status ⟨.bindings, [3, 1]⟩ = .skipped := by
  rcases judge_signedRedirect { id := "_0", acsUrl := "https://sp" } with ⟨judgment, hj⟩
  rcases document_signedRedirect with ⟨root, hdocument⟩
  have hanswer : (Session.run {} acceptingJudge 0 signedRedirect
      { id := "_0", acsUrl := "https://sp" }).1 = .ok judgment.violations := by
    rw [run_eq, hj]
  have hpass : ¬ acceptingJudge.passesOver signedRedirect.status = true := Bool.false_ne_true
  rcases statuses_of_run {} acceptingJudge 0 signedRedirect { id := "_0", acsUrl := "https://sp" }
    judgment.violations hpass hanswer with ⟨hgroups, hschema, hconsulted⟩
  have hcore : RuleGroup.core ∈ acceptingJudge.groupsFor signedRedirect := by
    rw [Judge.groupsFor, Message.decode_ok_of_reaches reaches_signedRedirect _ hdocument]
    exact List.mem_cons_self
  have hchecked := hschema _ _ _ _ reaches_signedRedirect
  have hredirect : signedRedirect.binding = .redirect := rfl
  rw [hredirect, hdocument] at hchecked
  refine ⟨judgment.violations, hpass, hanswer, ?_, hchecked, ?_⟩
  · exact fun t ht => (hgroups _ hcore t ht).1
  · exact hconsulted _ consulted_signedRedirect

/-- A run that is not passed over and gives an answer, on a redirect whose bytes reach the
check of the document and on whose query the verifier is called, both to the good. The
three sections about these checks are skipped afterwards. -/
theorem checked_but_skipped :
    let run := Session.run {} acceptingJudge 0 signedRedirect
      { id := "_0", acsUrl := "https://sp" }
    acceptingJudge.passesOver signedRedirect.status = false ∧ (∃ vs, run.1 = .ok vs) ∧
      (∃ root, Message.Steps signedRedirect .response
        (Redirect.payloadWith Deflate.store meantDocument) (Utf8.encode meantDocument) []
        meantDocument root) ∧
      acceptingJudge.Consulted signedRedirect (.ok true) ∧
      run.2.report.status (.whole .schema) = .skipped ∧
      run.2.report.status (.whole .general) = .skipped ∧
      run.2.report.status ⟨.bindings, [3, 1]⟩ = .skipped := by
  intro run
  rcases judge_signedRedirect { id := "_0", acsUrl := "https://sp" } with ⟨judgment, hj⟩
  rcases document_signedRedirect with ⟨root, hdocument⟩
  have hr := reaches_signedRedirect
  have hpass : ¬ acceptingJudge.passesOver signedRedirect.status = true := Bool.false_ne_true
  have hrun : run = (.ok judgment.violations,
      ⟨Report.empty.add 0 judgment, .done⟩) := by
    rw [show run = _ from run_eq {} acceptingJudge 0 signedRedirect
      { id := "_0", acsUrl := "https://sp" }, hj]
  -- The empty report gives no outcome that could be graver.
  have hempty : ∀ t, Report.empty.status t = .skipped := fun _ => rfl
  have hschema := Judge.status_schema hpass hj hr
  have hredirect : signedRedirect.binding = .redirect := rfl
  rw [hredirect, hdocument] at hschema
  rcases Judge.status_of_consulted hpass hj consulted_signedRedirect with ⟨hgeneral, hkey⟩
  rw [hrun]
  refine ⟨rfl, ⟨_, rfl⟩, ⟨root, ⟨hr.encoding, hr.carried, hr.unpacked, hdocument⟩⟩,
    consulted_signedRedirect, ?_, ?_, ?_⟩
  · rw [Report.status_add_of_skipped _ _ _ _ hschema, hempty]
  · rw [Report.status_add_of_skipped _ _ _ _ hgeneral, hempty]
  · rw [Report.status_add_of_skipped _ _ _ _ hkey, hempty]

end Session

end SamlConformance
