import SamlConformance.Proofs.Coding.FormData
import SamlConformance.Proofs.Judge.Checked

/-!
# Two Readings of the Encoding

The value that names the encoding of a redirect is looked at twice. The decoder reads it as
part of a query before it does anything else, and turns away what is a URI but not the known
one. What is no URI at all it leaves to the rules, and the rule reads it as form data, long
after, in the message that was decoded nevertheless.

The two readings are different texts where there is a plus sign, and a text can be a URI in
one of them only. But nothing falls between the two. A plus sign is a space in form data, and
there are no spaces in URIs, so that a value with a plus sign is never a URI to the rule. It
is not the known URI to the decoder either, as that has no plus sign. So each value is
accepted, or turned away, or reported, whichever it is to the decoder.

## Main definitions

* `Received.Names`: The encoding a response names, if any, as the decoder reads it.
* `Received.withoutEncoding`: The response without the parameters about it.
* `Redirect.Unsupported`: The encoding is a URI but not the known one.

## Theorems

* `Redirect.checkEncoding_of_unsupported`, `Redirect.checkEncoding_of_not_unsupported`: What
  the decoder makes of it.
* `Message.decode_withoutEncoding`: Once let pass, it plays no part in decoding.
* `Transport.clauses_redirectEncoding`: What the rule makes of it.
* `Session.answer_eq_error_iff`: The errors with which runs end.
* `Session.encoding_settled`: How they fit together in a run.
-/

namespace SamlConformance

/-- The encoding that a response names, as part of a query; none if the parameter is missing.
There is no such text where the bytes of the value encode none. -/
def Received.Names (r : Received) : Option String → Prop
  | none => r.get? .encoding = none
  | some e => ∃ raw, r.get? .encoding = some raw ∧ Percent.decode raw = .ok e

/-- The response without the parameters about its encoding. -/
def Received.withoutEncoding (r : Received) : Received :=
  { r with fields := r.fields.without [Saml.Parameter.encoding.name] }

/-- The encoding is a URI, and not the known one. -/
def Redirect.Unsupported (e : String) : Prop :=
  e ≠ Saml.deflateEncoding ∧ Uri.isAbsolute e = true

/-- The decoder turns away what is unsupported. -/
theorem Redirect.checkEncoding_of_unsupported {r : Received} {e : String}
    (h : r.Names (some e)) (hun : Unsupported e) :
    checkEncoding r.fields = .error ⟨.unsupportedEncoding, .redirect, e⟩ := by
  rcases h with ⟨raw, hraw, he⟩
  have hsome : r.fields.get? Saml.Parameter.encoding.name = some raw := hraw
  have hunescaped : unescaped raw = .ok e := by rw [unescaped, he]
  simp only [checkEncoding, hsome, hunescaped]
  exact if_pos hun

/-- It lets pass everything else. -/
theorem Redirect.checkEncoding_of_not_unsupported {r : Received} {named : Option String}
    (h : r.Names named) (hpass : ∀ e ∈ named, ¬ Unsupported e) :
    checkEncoding r.fields = .ok () := by
  match named, h with
  | none, h =>
      have hnone : r.fields.get? Saml.Parameter.encoding.name = none := h
      rw [checkEncoding, hnone]
  | some e, ⟨raw, hraw, he⟩ =>
      have hsome : r.fields.get? Saml.Parameter.encoding.name = some raw := hraw
      have hunescaped : unescaped raw = .ok e := by rw [unescaped, he]
      simp only [checkEncoding, hsome, hunescaped]
      exact if_neg (hpass e rfl)

/-- The other parameters are left. -/
theorem Received.get?_withoutEncoding (r : Received) (p : Saml.Parameter) (hp : p ≠ .encoding) :
    r.withoutEncoding.fields.get? p.name = r.fields.get? p.name := by
  refine (Fields.get?_without _ r.fields p.name).trans (if_neg ?_)
  rw [List.mem_singleton]
  exact fun h => hp (Fields.name_injective p .encoding h)

theorem Redirect.checkEncoding_withoutEncoding (r : Received) :
    checkEncoding r.withoutEncoding.fields = .ok () := by
  have hnone : r.withoutEncoding.fields.get? Saml.Parameter.encoding.name = none :=
    (Fields.get?_without _ r.fields _).trans (if_pos List.mem_cons_self)
  rw [checkEncoding, hnone]

/-- An encoding that is let pass plays no part in decoding: the message is the same, or the
failure is, as if none were named. -/
theorem Message.decode_withoutEncoding (check : Option SignatureCheck) (r : Received)
    (hredirect : r.binding = .redirect) (h : checkEncoding r = .ok ()) :
    decode check r = (decode check r.withoutEncoding).map fun m => { m with received := r } := by
  have hbinding : r.withoutEncoding.binding = .redirect := hredirect
  have hencoding : Redirect.checkEncoding r.fields = .ok () := by
    rw [checkEncoding, hredirect] at h
    exact h
  refine decode_congr check rfl ?_ ?_ ?_ ?_
  · rw [h, checkEncoding, hbinding]
    exact (Redirect.checkEncoding_withoutEncoding r).symm
  · have hresponse : r.get? .response = r.withoutEncoding.get? .response :=
      (r.get?_withoutEncoding .response (by decide)).symm
    have hrequest : r.get? .request = r.withoutEncoding.get? .request :=
      (r.get?_withoutEncoding .request (by decide)).symm
    rw [Received.payload?, hresponse, hrequest, Received.payload?]
  · intro payload
    rw [payloadBytes, payloadBytes, hredirect, hbinding]
    simp only [Redirect.decode, hencoding, Redirect.checkEncoding_withoutEncoding]
  · intro kind
    rw [signatureFinding?, signatureFinding?, hredirect, hbinding]
    exact querySignatureFinding?_congr (fun p hp => (r.get?_withoutEncoding p hp).symm) kind check

/-- A text with a space in it is no URI. -/
theorem Uri.not_isAbsolute_of_space (s : String) (h : ' ' ∈ s.toList) : isAbsolute s = false := by
  have hblank : Text.anyBlank s = true := List.any_eq_true.mpr ⟨' ', h, by decide⟩
  rw [isAbsolute, hblank, Bool.not_true, Bool.and_false, Bool.false_and]

/-- The rule reports every encoding that is let pass, but not the known one. -/
theorem Transport.clauses_redirectEncoding (reply : Reply) {named : Option String}
    (h : reply.message.received.Names named)
    (hpass : ∀ e ∈ named, ¬ Redirect.Unsupported e) :
    (redirectEncoding reply).violations.map Violation.clauses =
      if named.all (· = Saml.deflateEncoding) then []
      else [[.bindings_3_4_4_a, .core_1_3_2_a]] := by
  match named, h with
  | none, h =>
      have hnone : reply.message.received.get? .encoding = none := h
      rw [redirectEncoding, hnone]
      rfl
  | some e, ⟨raw, hraw, he⟩ =>
      -- What the rule reads is a URI only where it is the known one.
      have hread : Values.isUri ((formText? raw).getD raw) = decide (e = Saml.deflateEncoding) := by
        rcases Percent.decodeForm_of_decode raw e he with ⟨-, hform⟩ | ⟨hplus, text, hform, hspace⟩
        · rw [formText?, hform, Option.getD_some, Values.isUri]
          by_cases hdeflate : e = Saml.deflateEncoding
          · rw [hdeflate, decide_eq_true rfl]
            decide +kernel
          · rw [decide_eq_false hdeflate, ← Bool.not_eq_true]
            exact fun habsolute => hpass e rfl ⟨hdeflate, habsolute⟩
        · have hdeflate : e ≠ Saml.deflateEncoding := by
            rintro rfl
            exact absurd hplus (by decide +kernel)
          rw [formText?, hform, Option.getD_some, Values.isUri,
            Uri.not_isAbsolute_of_space text hspace, decide_eq_false hdeflate]
      rw [redirectEncoding, hraw]
      simp only [Outcome.violations_report, Values.uriFindings, Option.any_some, hread,
        Option.all_some, decide_eq_true_eq]
      by_cases hdeflate : e = Saml.deflateEncoding
      · rw [if_pos hdeflate, if_pos hdeflate]
        rfl
      · rw [if_neg hdeflate, if_neg hdeflate]
        rfl

namespace Session

/-- A run ends with an error where the check of the encoding fails and this is no fault of
the provider, and nowhere else. -/
theorem answer_eq_error_iff (s : Session) (j : Judge) (w : Worker) (received : Received)
    (request : Request) (hpass : ¬ j.passesOver received.status = true) (err : EnvironmentError) :
    (s.run j w received request).1 = .error err ↔
      ∃ e, Message.checkEncoding received = .error e ∧ e.isEnvironmental = true ∧
        err = .unsupportedEncoding e.detail := by
  have hfailed : ∀ e, Message.checkEncoding received = .error e →
      Message.decode j.signatureCheck? received = .error e := by
    intro e he
    rw [Message.decode, he]
  constructor
  · intro h
    cases hd : Message.decode j.signatureCheck? received with
    | ok m =>
        rw [run_of_message s j w received request hpass m hd] at h
        exact absurd h (by simp only [reduceCtorEq, not_false_eq_true])
    | error e =>
        by_cases henv : e.isEnvironmental = true
        · rw [run_of_environmental s j w received request hpass e hd henv] at h
          refine ⟨e, ?_, henv, (Except.error.inj h).symm⟩
          -- Behind this check there are no such failures.
          cases hcheck : Message.checkEncoding received with
          | ok _ => exact absurd henv (Message.not_isEnvironmental_of_checkEncoding _ _ e hcheck hd)
          | error e' => rw [Except.error.inj ((hfailed e' hcheck).symm.trans hd)]
        · rw [run_of_decodeError s j w received request hpass e hd henv] at h
          exact absurd h (by simp only [reduceCtorEq, not_false_eq_true])
  · rintro ⟨e, he, henv, rfl⟩
    rw [run_of_environmental s j w received request hpass e (hfailed e he) henv]

/-- What becomes of a redirect by the encoding it names. A run that is not passed over ends
with the error about the encoding exactly if this is a URI but not the known one, whatever
else is in the response. In every other case decoding gives the failure, or the message,
that it gives without the parameter. In a message that is decoded the rule reports a breach
exactly if an encoding is named that is not the known one. -/
theorem encoding_settled (s : Session) (j : Judge) (w : Worker) (received : Received)
    (request : Request) (named : Option String) (hredirect : received.binding = .redirect)
    (hnamed : received.Names named) :
    (¬ j.passesOver received.status = true → ∀ e,
      (s.run j w received request).1 = .error (.unsupportedEncoding e) ↔
        e ∈ named ∧ Redirect.Unsupported e) ∧
    ((∀ e ∈ named, ¬ Redirect.Unsupported e) → ∀ check,
      Message.decode check received = (Message.decode check received.withoutEncoding).map
        fun m => { m with received := received }) ∧
    ∀ check (reply : Reply), Message.decode check received = .ok reply.message →
      (Transport.redirectEncoding reply).violations.map Violation.clauses =
        if named.all (· = Saml.deflateEncoding) then []
        else [[.bindings_3_4_4_a, .core_1_3_2_a]] := by
  have hcheck : Message.checkEncoding received = Redirect.checkEncoding received.fields := by
    rw [Message.checkEncoding, hredirect]
  have hpassed : (∀ e ∈ named, ¬ Redirect.Unsupported e) →
      Message.checkEncoding received = .ok () := fun h =>
    hcheck.trans (Redirect.checkEncoding_of_not_unsupported hnamed h)
  have hturned : ∀ e ∈ named, Redirect.Unsupported e →
      Message.checkEncoding received = .error ⟨.unsupportedEncoding, .redirect, e⟩ := by
    rintro e rfl hun
    exact hcheck.trans (Redirect.checkEncoding_of_unsupported hnamed hun)
  refine ⟨?_, ?_, ?_⟩
  · intro hpass e
    rw [answer_eq_error_iff s j w received request hpass]
    constructor
    · rintro ⟨err, herr, -, hdetail⟩
      by_cases hall : ∀ e ∈ named, ¬ Redirect.Unsupported e
      · rw [hpassed hall] at herr
        exact absurd herr (by simp only [reduceCtorEq, not_false_eq_true])
      · simp only [not_forall, not_not, exists_prop] at hall
        rcases hall with ⟨e', he', hun⟩
        rw [hturned e' he' hun] at herr
        cases Except.error.inj herr
        cases EnvironmentError.unsupportedEncoding.inj hdetail
        exact ⟨he', hun⟩
    · rintro ⟨he, hun⟩
      exact ⟨_, hturned e he hun, rfl, rfl⟩
  · exact fun h check => Message.decode_withoutEncoding check received hredirect (hpassed h)
  · intro check reply hdecode
    have hreceived := Message.received_of_decode check received reply.message hdecode
    refine Transport.clauses_redirectEncoding reply (hreceived ▸ hnamed) ?_
    intro e he hun
    rw [Message.decode, hturned e he hun] at hdecode
    exact absurd hdecode (by simp only [reduceCtorEq, not_false_eq_true])

/-- The signed redirect, with an encoding named in front. -/
def encodedRedirect (raw : String) : Received :=
  { signedRedirect with fields := (Saml.Parameter.encoding.name, raw) :: signedRedirect.fields }

/-- Two encodings with a plus sign. One is a URI to the decoder, and ends the run; the other
is none, and is reported in the message that is decoded nevertheless. -/
theorem encoding_settled_encodedRedirect :
    (Session.run {} acceptingJudge 0 (encodedRedirect "urn:a+b")
        { id := "_0", acsUrl := "https://sp" }).1 = .error (.unsupportedEncoding "urn:a+b") ∧
      ∃ reply : Reply, Message.decode acceptingJudge.signatureCheck? (encodedRedirect "a+b") =
          .ok reply.message ∧
        (Transport.redirectEncoding reply).violations.map Violation.clauses =
          [[.bindings_3_4_4_a, .core_1_3_2_a]] := by
  have hpass : ¬ acceptingJudge.passesOver 302 = true := Bool.false_ne_true
  have huri : (encodedRedirect "urn:a+b").Names (some "urn:a+b") := ⟨_, rfl, by decide +kernel⟩
  have hother : (encodedRedirect "a+b").Names (some "a+b") := ⟨_, rfl, by decide +kernel⟩
  rcases encoding_settled {} acceptingJudge 0 (encodedRedirect "urn:a+b")
    { id := "_0", acsUrl := "https://sp" } _ rfl huri with ⟨hanswer, -, -⟩
  rcases encoding_settled {} acceptingJudge 0 (encodedRedirect "a+b")
    { id := "_0", acsUrl := "https://sp" } _ rfl hother with ⟨-, hdecode, hrule⟩
  refine ⟨(hanswer hpass _).mpr ⟨rfl, by decide, by decide +kernel⟩, ?_⟩
  -- Without the encoding this is the signed redirect.
  have hpassed : ∀ e ∈ some "a+b", ¬ Redirect.Unsupported e := by
    intro e he hun
    cases he
    exact absurd hun.2 (by decide +kernel)
  have hwithout : (encodedRedirect "a+b").withoutEncoding = signedRedirect := rfl
  rcases document_signedRedirect with ⟨root, hdocument⟩
  have hmessage := hdecode hpassed acceptingJudge.signatureCheck?
  rw [hwithout, Message.decode_ok_of_reaches reaches_signedRedirect _ hdocument] at hmessage
  exact ⟨⟨_, { id := "_0", acsUrl := "https://sp" }, acceptingJudge.metadata⟩, hmessage,
    hrule _ ⟨_, _, _⟩ hmessage⟩

end Session

end SamlConformance
