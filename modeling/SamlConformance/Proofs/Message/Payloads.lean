import SamlConformance.Proofs.Coding.Alphabet
import SamlConformance.Proofs.Message.Decoding

/-!
# One Payload for Each Message

A form has to carry a message as it is, because nobody between the two parties may get to
choose how it is spelled. So a payload is accepted in one spelling only, and every other
text is turned away: the empty one because nothing is there, and the rest as malformed.
What is turned away is not left to the reader of payloads to say. A text is told from a
payload by its symbols and its padding alone.

Putting a document into a form and getting the message out of it gives the document back.
This fails for one document only, which is empty and so is no payload. Whether a message
comes out is then decided by the reader of documents and by nothing else.

## Main definitions

* `Post.Malformed`: The payload is turned away as malformed.

## Theorems

* `Post.decode_eq_ok_iff`: A payload holds bytes exactly if it is their text.
* `Post.malformed_iff`: Every other payload is malformed, unless it is empty.
* `Message.decode_carried`: The message in a form is the document that was put into it.
* `Post.spelling`: What is a payload and what is none, and what comes out of it.
-/

namespace SamlConformance

namespace Post

/-- The payload is turned away as malformed, with whatever particulars. -/
def Malformed (payload : String) : Prop :=
  ∃ detail, decode payload = .error ⟨.malformed, .post, detail⟩

theorem decode_empty :
    decode "" = .error ⟨.missingPayload, .post, "payload form control is empty"⟩ :=
  rfl

theorem missing_ne_malformed : DecodeError.Kind.missingPayload ≠ .malformed := by
  decide

/-- What is not empty is left to the reader of base64. -/
theorem decode_of_ne (payload : String) (h : payload ≠ "") :
    decode payload = match Base64.decode payload with
      | .ok bytes => .ok bytes
      | .error f => .error ⟨.malformed, .post, f.message⟩ := by
  unfold decode
  exact if_neg fun hempty => h (String.isEmpty_iff.mp hempty)

/-- A payload holds bytes exactly if it is their text, and not empty. -/
theorem decode_eq_ok_iff (payload : String) (bytes : List UInt8) :
    decode payload = .ok bytes ↔ payload ≠ "" ∧ payload = Base64.encode bytes := by
  by_cases hempty : payload = ""
  · rw [hempty, decode_empty]
    exact ⟨fun h => absurd h (by simp only [reduceCtorEq, not_false_eq_true]),
      fun h => absurd rfl h.1⟩
  · rw [decode_of_ne payload hempty, ← Base64.decode_eq_ok_iff]
    cases Base64.decode payload with
    | ok read => simp only [Except.ok.injEq, ne_eq, hempty, not_false_eq_true, true_and]
    | error f => simp only [reduceCtorEq, and_false]

/-- A payload is malformed exactly if there is something in it that is not canonical. -/
theorem malformed_iff (payload : String) :
    Malformed payload ↔ payload ≠ "" ∧ ¬ Base64.Canonical payload := by
  rw [← Base64.exists_encode_iff, not_exists]
  constructor
  · rintro ⟨detail, hdetail⟩
    have hempty : payload ≠ "" := by
      rintro rfl
      rw [decode_empty] at hdetail
      exact missing_ne_malformed (congrArg DecodeError.kind (Except.error.inj hdetail))
    refine ⟨hempty, fun bytes hbytes => ?_⟩
    rw [(decode_eq_ok_iff payload bytes).mpr ⟨hempty, hbytes⟩] at hdetail
    exact absurd hdetail (by simp only [reduceCtorEq, not_false_eq_true])
  · rintro ⟨hempty, hnone⟩
    cases hread : Base64.decode payload with
    | ok bytes => exact absurd ((Base64.decode_eq_ok_iff payload bytes).mp hread) (hnone bytes)
    | error f =>
        refine ⟨f.message, ?_⟩
        rw [decode_of_ne payload hempty, hread]

/-- Nothing but the empty payload is missing. -/
theorem decode_eq_missing_iff (payload detail : String) :
    decode payload = .error ⟨.missingPayload, .post, detail⟩ ↔
      payload = "" ∧ detail = "payload form control is empty" := by
  constructor
  · intro h
    by_cases hempty : payload = ""
    · rw [hempty, decode_empty] at h
      exact ⟨hempty, (congrArg DecodeError.detail (Except.error.inj h)).symm⟩
    · rw [decode_of_ne payload hempty] at h
      split at h
      · exact absurd h (by simp only [reduceCtorEq, not_false_eq_true])
      · have hkind := congrArg DecodeError.kind (Except.error.inj h)
        exact absurd hkind.symm missing_ne_malformed
  · rintro ⟨rfl, rfl⟩
    exact decode_empty

/-- What is put into a form comes out of it, if there is anything. -/
theorem decode_encode (xml : String) (h : xml ≠ "") :
    decode (encode xml) = .ok (Utf8.encode xml) := by
  refine (decode_eq_ok_iff _ _).mpr ⟨fun hempty => h ?_, rfl⟩
  exact eq_empty_of_encode xml (String.isEmpty_iff.mpr hempty)

/-- Blanks and the symbols of the alphabet for addresses are foreign. -/
theorem foreign_of_blank (c : Char) (h : Text.isBlank c = true ∨ c = '-' ∨ c = '_') :
    c ∉ Base64.alphabet ∧ c ≠ '=' := by
  have hvisible : (('=' :: Base64.alphabet).all fun d =>
      ¬ (Text.isBlank d = true ∨ d = '-' ∨ d = '_')) = true := by decide
  have hnone : c ∉ '=' :: Base64.alphabet := fun hmem =>
    of_decide_eq_true (List.all_eq_true.mp hvisible c hmem) h
  exact ⟨fun hmem => hnone (List.mem_cons_of_mem _ hmem),
    fun heq => hnone (heq ▸ List.mem_cons_self)⟩

end Post

/-- The message in a form is the document that was put into it, if it is one. A response
counts before a request. -/
theorem Message.decode_carried (check : Option SignatureCheck) (r : Received)
    (kind : MessageKind) (xml : String) (hxml : xml ≠ "") (hbinding : r.binding = .post)
    (hcarried : r.get? kind.parameter = some (Post.encode xml))
    (hfirst : kind = .request → r.get? .response = none) :
    decode check r = match Xml.parse xml with
      | .ok root => .ok ⟨r, kind, xml, root, []⟩
      | .error e => .error ⟨.malformedXml, .post, e.message⟩ := by
  have hpayload : r.payload? = some (kind, Post.encode xml) := by
    cases kind with
    | response =>
        have hresponse : r.get? .response = some (Post.encode xml) := hcarried
        rw [Received.payload?, hresponse]
    | request =>
        have hrequest : r.get? .request = some (Post.encode xml) := hcarried
        rw [Received.payload?, hfirst rfl, hrequest]
        rfl
  have hencoding : checkEncoding r = .ok () := by rw [checkEncoding, hbinding]
  have hbytes : payloadBytes r (Post.encode xml) = .ok (Utf8.encode xml, []) := by
    rw [payloadBytes, hbinding, Post.decode_encode xml hxml]
    rfl
  have hsignature : signatureFinding? r kind check = none := by rw [signatureFinding?, hbinding]
  simp only [decode, hencoding, hpayload, hbytes, document_encode, hbinding]
  cases Xml.parse xml with
  | error e => rfl
  | ok root => simp only [hsignature, Option.toList_none, List.append_nil]

/-- Payloads have one spelling. What is accepted is the text of the bytes that come out, and
no other text is accepted for them; the empty payload is missing, and all others are
malformed. They are those with foreign characters, blanks among them, with padding that is
interrupted, missing or too long, and with bits left over. A document that is not empty comes
back out of the payload that it was put into, and becomes the message if it is well-formed. -/
theorem Post.spelling :
    (∀ payload bytes, decode payload = .ok bytes ↔
      payload ≠ "" ∧ payload = Base64.encode bytes) ∧
    (∀ payload payload' bytes, decode payload = .ok bytes → decode payload' = .ok bytes →
      payload = payload') ∧
    (∀ payload detail, decode payload = .error ⟨.missingPayload, .post, detail⟩ ↔
      payload = "" ∧ detail = "payload form control is empty") ∧
    (∀ payload, Malformed payload ↔ payload ≠ "" ∧ ¬ Base64.Canonical payload) ∧
    (∀ payload, ∀ c ∈ payload.toList, Text.isBlank c = true ∨ c = '-' ∨ c = '_' →
      Malformed payload) ∧
    (∀ payload before after c, payload.toList = before ++ '=' :: c :: after → c ≠ '=' →
      Malformed payload) ∧
    (∀ (symbols : List Char) k, symbols ≠ [] → (∀ c ∈ symbols, c ∈ Base64.alphabet) →
      (Malformed (String.ofList (symbols ++ List.replicate k '=')) ↔
        ¬ (4 ∣ symbols.length + k ∧ k ≤ 2 ∧
          ∀ c ∈ symbols.getLast?, Base64.alphabet.idxOf c % 4 ^ k = 0))) ∧
    (∀ xml, xml ≠ "" → decode (encode xml) = .ok (Utf8.encode xml)) ∧
    (∀ check r kind xml, xml ≠ "" → r.binding = .post →
      r.get? kind.parameter = some (encode xml) →
      (kind = .request → r.get? .response = none) →
      Message.decode check r = match Xml.parse xml with
        | .ok root => .ok ⟨r, kind, xml, root, []⟩
        | .error e => .error ⟨.malformedXml, .post, e.message⟩) := by
  refine ⟨decode_eq_ok_iff, ?_, decode_eq_missing_iff, malformed_iff, ?_, ?_, ?_, decode_encode,
    Message.decode_carried⟩
  · intro payload payload' bytes h h'
    rw [((decode_eq_ok_iff payload bytes).mp h).2, ((decode_eq_ok_iff payload' bytes).mp h').2]
  · intro payload c hc hforeign
    rcases foreign_of_blank c hforeign with ⟨hsymbol, hpad⟩
    refine (malformed_iff payload).mpr
      ⟨?_, Base64.not_canonical_of_foreign payload c hc hsymbol hpad⟩
    rintro rfl
    exact absurd hc List.not_mem_nil
  · intro payload before after c hpayload hc
    refine (malformed_iff payload).mpr
      ⟨?_, Base64.not_canonical_of_interrupted payload before after c hpayload hc⟩
    rintro rfl
    have hnil : before ++ '=' :: c :: after = [] := hpayload.symm
    exact absurd (List.append_eq_nil_iff.mp hnil).2 (List.cons_ne_nil _ _)
  · intro symbols k hsymbols hknown
    rw [malformed_iff, Base64.canonical_padded_iff symbols k hknown]
    refine ⟨And.right, fun h => ⟨fun hempty => hsymbols ?_, h⟩⟩
    have hlist := congrArg String.toList hempty
    rw [String.toList_ofList] at hlist
    exact (List.append_eq_nil_iff.mp hlist).1

/-- A logout request in a form, behind a field that is no payload. -/
def Post.logoutForm : Received :=
  ⟨.post, 200, [(Saml.Parameter.relayState.name, "="),
    (Saml.Parameter.request.name, encode "<r a=\x27é\x27/>")], true⟩

/-- The request in the form, and three texts that a lenient reader would take for the payload
`TWE=`: with a line break, without padding, and with bits left over. -/
theorem Post.spelling_logoutForm :
    (∃ root, Message.decode none logoutForm =
      .ok ⟨logoutForm, .request, "<r a=\x27é\x27/>", root, []⟩) ∧
    Malformed "TWE=\n" ∧ Malformed "TWE" ∧ Malformed "TWF=" := by
  rcases spelling with ⟨-, -, -, -, hforeign, -, hpadded, -, hcarried⟩
  refine ⟨?_, ?_, ?_, ?_⟩
  · have hmessage := hcarried none logoutForm .request "<r a=\x27é\x27/>" (by decide) rfl rfl
      (fun _ => rfl)
    have hparsed : (Xml.parse "<r a=\x27é\x27/>").toOption.isSome = true := by decide +kernel
    cases hparse : Xml.parse "<r a=\x27é\x27/>" with
    | error e =>
        rw [hparse] at hparsed
        exact absurd hparsed Bool.false_ne_true
    | ok root =>
        rw [hparse] at hmessage
        exact ⟨root, hmessage⟩
  · exact hforeign "TWE=\n" '\n' (by decide) (by decide)
  · refine (hpadded ['T', 'W', 'E'] 0 (by decide) ?_).mpr fun h => absurd h.1 (by decide)
    exact show ['T', 'W', 'E'] ⊆ Base64.alphabet by decide
  · refine (hpadded ['T', 'W', 'F'] 1 (by decide) ?_).mpr fun h =>
      absurd (h.2.2 'F' rfl) (by decide)
    exact show ['T', 'W', 'F'] ⊆ Base64.alphabet by decide

end SamlConformance
