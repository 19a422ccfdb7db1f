import SamlConformance.Proofs.Judge.Encoding

/-!
# Encodings That Cannot Be Read

The escapes in the value that names the encoding of a redirect may stand for bytes that are no
text. The rule about encodings provides for this: a value that is no form data is judged as it
stands. But the rule is for messages that were decoded, and the decoder reads the value too,
before it does anything else. It needs the text to tell whether it is a URI, and where there is
none it fails, as it fails for a payload whose escapes stand for no text. The provider is then
told that the message is not base64, although nobody looked at the message.

The rule reads form data and the decoder does not, but the two readings fail together. So what
the rule provides for is exactly what the decoder does not let pass, and no message is ever
judged in that way.

## Main definitions

* `Received.Garbled`: The encoding of a response is named by no text.

## Theorems

* `Redirect.checkEncoding_eq_error_iff`: The two ways in which the check of the encoding fails.
* `Message.decode_of_checkEncoding`: Nothing else counts then.
* `Transport.clauses_redirectEncoding_of_garbled`: What the rule would report.
* `Session.garbled_encoding`: What is reported instead.
-/

namespace SamlConformance

/-- The value that names the encoding of a response stands for no text, for a reason. -/
structure Received.Garbled (r : Received) (raw : String) (f : Utf8.Fault) : Prop where
  /-- There is such a value. -/
  named : r.get? .encoding = some raw
  /-- It cannot be read. -/
  unreadable : Percent.decode raw = .error f

/-- The check of the encoding fails where the value that names it cannot be read, and where it is
a URI that is not supported. -/
theorem Redirect.checkEncoding_eq_error_iff (fields : Fields) (e : DecodeError) :
    checkEncoding fields = .error e ↔
      ∃ raw, fields.get? Saml.Parameter.encoding.name = some raw ∧
        ((∃ f, Percent.decode raw = .error f ∧ e = ⟨.malformed, .redirect, f.message⟩) ∨
          ∃ named, Percent.decode raw = .ok named ∧ Unsupported named ∧
            e = ⟨.unsupportedEncoding, .redirect, named⟩) := by
  unfold checkEncoding unescaped
  cases fields.get? Saml.Parameter.encoding.name with
  | none => simp only [reduceCtorEq, false_and, exists_false]
  | some raw =>
      simp only [Option.some.injEq, exists_eq_left']
      cases Percent.decode raw with
      | error f => simp only [Except.error.injEq, exists_eq_left', reduceCtorEq, false_and,
          exists_false, or_false, eq_comm]
      | ok named =>
          simp only [reduceCtorEq, false_and, exists_false, false_or, Except.ok.injEq,
            exists_eq_left']
          unfold Unsupported
          split
          · rename_i hun
            simp only [hun, ne_eq, not_false_eq_true, and_self, Except.error.injEq, true_and,
              eq_comm]
          · rename_i hpass
            simp only [hpass, reduceCtorEq, false_and]

/-- Where the check of the encoding fails, every payload fails with it. -/
theorem Redirect.decode_of_checkEncoding (fields : Fields) (payload : String) (e : DecodeError)
    (h : checkEncoding fields = .error e) : decode fields payload = .error e := by
  rw [decode, h]

/-- So does every redirect, whatever else is in it. -/
theorem Message.decode_of_checkEncoding (check : Option SignatureCheck) (r : Received)
    (e : DecodeError) (hredirect : r.binding = .redirect)
    (h : Redirect.checkEncoding r.fields = .error e) : decode check r = .error e := by
  have hfailed : checkEncoding r = .error e := by
    rw [checkEncoding, hredirect]
    exact h
  rw [decode, hfailed]

/-- To the rule such a value is one that stands for itself. -/
theorem Transport.clauses_redirectEncoding_of_garbled (reply : Reply) (raw : String)
    (f : Utf8.Fault) (h : reply.message.received.Garbled raw f) :
    (redirectEncoding reply).violations.map Violation.clauses =
      if Uri.isAbsolute raw then [] else [[.bindings_3_4_4_a, .core_1_3_2_a]] := by
  obtain ⟨f', hform⟩ := (Percent.exists_error_decodeForm_iff raw).mpr ⟨f, h.unreadable⟩
  rw [redirectEncoding, h.named]
  simp only [Outcome.violations_report, Values.uriFindings, formText?, hform, Option.getD_none,
    Option.any_some, Values.isUri]
  split
  · rfl
  · rfl

namespace Session

/-- A redirect whose encoding is named by no text is never a message, and the value that names it
is never judged by the rule, which would take it as it stands. The check of the encoding fails
as malformed for these values and for no others. Then every payload fails, the response is no
message whatever is in it, and the answer to it is a single violation, which says of the message
that it is not base64. -/
theorem garbled_encoding (s : Session) (j : Judge) (w : Worker) (received : Received)
    (request : Request) (hredirect : received.binding = .redirect) :
    (∀ detail, Redirect.checkEncoding received.fields = .error ⟨.malformed, .redirect, detail⟩ ↔
      ∃ raw f, received.Garbled raw f ∧ detail = f.message) ∧
    ∀ raw f, received.Garbled raw f →
      (∀ payload, Redirect.decode received.fields payload =
        .error ⟨.malformed, .redirect, f.message⟩) ∧
      (∀ check, Message.decode check received = .error ⟨.malformed, .redirect, f.message⟩) ∧
      (¬ j.passesOver received.status = true → ∃ v, (s.run j w received request).1 = .ok [v] ∧
        v.clauses = [.bindings_3_4_4_1_c] ∧
        v.message = "Could not base64 decode the redirect SAML message.") ∧
      ∀ reply : Reply, reply.message.received = received →
        (Transport.redirectEncoding reply).violations.map Violation.clauses =
          if Uri.isAbsolute raw then [] else [[.bindings_3_4_4_a, .core_1_3_2_a]] := by
  -- The other way to fail has another kind, which tells the two apart.
  have hcheck : ∀ detail, Redirect.checkEncoding received.fields =
      .error ⟨.malformed, .redirect, detail⟩ ↔
        ∃ raw f, received.Garbled raw f ∧ detail = f.message := by
    intro detail
    rw [Redirect.checkEncoding_eq_error_iff]
    constructor
    · rintro ⟨raw, hraw, ⟨f, hf, heq⟩ | ⟨named, -, -, heq⟩⟩
      · exact ⟨raw, f, ⟨hraw, hf⟩, congrArg DecodeError.detail heq⟩
      · exact absurd (congrArg DecodeError.kind heq)
          (by simp only [reduceCtorEq, not_false_eq_true])
    · rintro ⟨raw, f, ⟨hraw, hf⟩, rfl⟩
      exact ⟨raw, hraw, Or.inl ⟨f, hf, rfl⟩⟩
  refine ⟨hcheck, fun raw f hgarbled => ?_⟩
  have hfailed := (hcheck f.message).mpr ⟨raw, f, hgarbled, rfl⟩
  have hdecode : ∀ check, Message.decode check received =
      .error ⟨.malformed, .redirect, f.message⟩ := fun check =>
    Message.decode_of_checkEncoding check received _ hredirect hfailed
  refine ⟨fun payload => Redirect.decode_of_checkEncoding _ payload _ hfailed, hdecode, ?_, ?_⟩
  · intro hpass
    -- The failure lies with the provider, so that it is recorded and the run goes on.
    have hrun := run_of_decodeError s j w received request hpass _ (hdecode j.signatureCheck?)
      Bool.false_ne_true
    exact ⟨_, by rw [hrun]; rfl, rfl, rfl⟩
  · rintro reply hreceived
    exact Transport.clauses_redirectEncoding_of_garbled reply raw f (hreceived ▸ hgarbled)

/-- A signed redirect that names an encoding in a byte that is no text behind a scheme. The rule
would take it for a URI and report nothing; what is reported is that the payload, which is
decoded without it, is not base64. -/
theorem garbled_encoding_encodedRedirect :
    (∃ v, (Session.run {} acceptingJudge 0 (encodedRedirect "urn:%FF")
          { id := "_0", acsUrl := "https://sp" }).1 = .ok [v] ∧
        v.clauses = [.bindings_3_4_4_1_c]) ∧
      ∀ reply : Reply, reply.message.received = encodedRedirect "urn:%FF" →
        (Transport.redirectEncoding reply).violations.map Violation.clauses = [] := by
  have hgarbled : (encodedRedirect "urn:%FF").Garbled "urn:%FF" ⟨4, some 1⟩ :=
    ⟨rfl, by decide +kernel⟩
  have huri : Uri.isAbsolute "urn:%FF" = true := by decide +kernel
  rcases (garbled_encoding {} acceptingJudge 0 (encodedRedirect "urn:%FF")
    { id := "_0", acsUrl := "https://sp" } rfl).2 _ _ hgarbled with ⟨-, -, hrun, hrule⟩
  obtain ⟨v, hv, hclauses, -⟩ := hrun Bool.false_ne_true
  refine ⟨⟨v, hv, hclauses⟩, fun reply hreply => ?_⟩
  rw [hrule reply hreply, if_pos huri]

/-- The value that names an encoding is no text, and is not left to the rule: it makes decoding
fail as if the payload were not base64, while without it the payload is decoded. -/
theorem garbled_encoding_not_left_to_rule :
    (encodedRedirect "%FF").Garbled "%FF" ⟨0, some 1⟩ ∧
      Redirect.checkEncoding (encodedRedirect "%FF").fields ≠ .ok () ∧
      (∃ e, Message.decode none (encodedRedirect "%FF") = .error e ∧ e.kind = .malformed) ∧
      ∃ m, Message.decode none (encodedRedirect "%FF").withoutEncoding = .ok m := by
  have hgarbled : (encodedRedirect "%FF").Garbled "%FF" ⟨0, some 1⟩ := ⟨rfl, by decide +kernel⟩
  have hfailed : Redirect.checkEncoding (encodedRedirect "%FF").fields =
      .error ⟨.malformed, .redirect, Utf8.Fault.message ⟨0, some 1⟩⟩ :=
    (Redirect.checkEncoding_eq_error_iff _ _).mpr
      ⟨_, hgarbled.named, Or.inl ⟨_, hgarbled.unreadable, rfl⟩⟩
  have hwithout : (encodedRedirect "%FF").withoutEncoding = signedRedirect := rfl
  rcases document_signedRedirect with ⟨root, hdocument⟩
  refine ⟨hgarbled, ?_, ⟨_, Message.decode_of_checkEncoding none _ _ rfl hfailed, rfl⟩, ?_⟩
  · rw [hfailed]
    simp only [ne_eq, reduceCtorEq, not_false_eq_true]
  · rw [hwithout, Message.decode_ok_of_reaches reaches_signedRedirect none hdocument]
    exact ⟨_, rfl⟩

end Session

end SamlConformance
