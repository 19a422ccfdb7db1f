import SamlConformance.Message.Basic
import SamlConformance.Proofs.Coding.Base64

/-!
# Steps of Decoding

What a decoded message is made of. Decoding runs through the check of the encoding,
the choice of the payload, its bytes and the document in them; a message exists
exactly if all four go well, and is then determined by what they gave.

The check of signatures comes last and cannot fail. So decoding with a check is
decoding without one, and then one more finding at most. Whatever is said of
messages can be said of decoding without a check first.

## Main definitions

* `Message.Steps`: The four steps went well, with these results.
* `Received.posted`: A document as it arrives in a form.

## Theorems

* `Redirect.decode_error_cases`, `Post.decode_error`: The ways in which payloads fail.
* `decode_eq_ok_iff`: A message is what the steps gave.
* `document_encode`, `document_eq_ok_iff`: The bytes of a text are read as this text.
* `decode_eq_map`: The check of signatures adds a finding and changes nothing else.
* `decode_congr`: What decoding takes from a response, and what it does not.
* `decode_error_binding`: A failure speaks of the binding of the response.
* `decode_posted`: A document that is put into a form is the message in it.
-/

namespace SamlConformance

namespace Redirect

theorem unescaped_error (value : String) (e : DecodeError) (h : unescaped value = .error e) :
    e.kind = .malformed ∧ e.binding = .redirect := by
  unfold unescaped at h
  split at h
  · exact absurd h (by simp only [reduceCtorEq, not_false_eq_true])
  · rw [← Except.error.inj h]
    exact ⟨rfl, rfl⟩

theorem checkEncoding_error_binding (fields : Fields) (e : DecodeError)
    (h : checkEncoding fields = .error e) : e.binding = .redirect := by
  unfold checkEncoding at h
  split at h
  · exact absurd h (by simp only [reduceCtorEq, not_false_eq_true])
  · rename_i value _
    split at h
    · rename_i e' he
      rw [← Except.error.inj h]
      exact (unescaped_error value e' he).2
    · split at h
      · rw [← Except.error.inj h]
      · exact absurd h (by simp only [reduceCtorEq, not_false_eq_true])

theorem inflated_error (compact : String) (e : DecodeError) (h : inflated compact = .error e) :
    (e.kind = .malformed ∨ e.kind = .inflateFailed) ∧ e.binding = .redirect := by
  unfold inflated at h
  split at h
  · rw [← Except.error.inj h]
    exact ⟨Or.inl rfl, rfl⟩
  · split at h
    · rw [← Except.error.inj h]
      exact ⟨Or.inr rfl, rfl⟩
    · exact absurd h (by simp only [reduceCtorEq, not_false_eq_true])

/-- A payload fails for its encoding, or in one of three ways. -/
theorem decode_error_cases (fields : Fields) (payload : String) (e : DecodeError)
    (h : decode fields payload = .error e) :
    checkEncoding fields = .error e ∨
      (e.kind = .malformed ∨ e.kind = .whitespaceDetected ∨ e.kind = .inflateFailed) ∧
        e.binding = .redirect := by
  unfold decode at h
  split at h
  · rename_i e' he
    rw [← Except.error.inj h]
    exact Or.inl he
  · refine Or.inr ?_
    split at h
    · rename_i e' he
      rw [← Except.error.inj h]
      rcases unescaped_error payload e' he with ⟨hkind, hbinding⟩
      exact ⟨Or.inl hkind, hbinding⟩
    · split at h
      · rw [← Except.error.inj h]
        exact ⟨Or.inr (Or.inl rfl), rfl⟩
      · rename_i text _ _
        split at h
        · rename_i e' he
          rw [← Except.error.inj h]
          rcases inflated_error (Text.withoutBlanks text) e' he with ⟨hkind | hkind, hbinding⟩
          · exact ⟨Or.inl hkind, hbinding⟩
          · exact ⟨Or.inr (Or.inr hkind), hbinding⟩
        · exact absurd h (by simp only [reduceCtorEq, not_false_eq_true])

theorem decode_error_binding (fields : Fields) (payload : String) (e : DecodeError)
    (h : decode fields payload = .error e) : e.binding = .redirect := by
  rcases decode_error_cases fields payload e h with hencoding | ⟨-, hbinding⟩
  · exact checkEncoding_error_binding fields e hencoding
  · exact hbinding

end Redirect

/-- A form holds a payload that is missing or malformed, or bytes. -/
theorem Post.decode_error (payload : String) (e : DecodeError) (h : decode payload = .error e) :
    (e.kind = .missingPayload ∨ e.kind = .malformed) ∧ e.binding = .post := by
  unfold decode at h
  split at h
  · rw [← Except.error.inj h]
    exact ⟨Or.inl rfl, rfl⟩
  · split at h
    · exact absurd h (by simp only [reduceCtorEq, not_false_eq_true])
    · rw [← Except.error.inj h]
      exact ⟨Or.inr rfl, rfl⟩

/-- The payload of a response is the first value of its kind. -/
theorem Received.get?_of_payload? (r : Received) (kind : MessageKind) (payload : String)
    (h : r.payload? = some (kind, payload)) :
    r.fields.get? kind.parameter.name = some payload := by
  unfold payload? at h
  split at h
  · rename_i value hvalue
    rcases Prod.mk.inj (Option.some.inj h) with ⟨rfl, rfl⟩
    exact hvalue
  · obtain ⟨value, hvalue, heq⟩ := Option.map_eq_some_iff.mp h
    rcases Prod.mk.inj heq with ⟨rfl, rfl⟩
    exact hvalue

namespace Message

/-- The steps of decoding a response went well: its encoding is one that can be
decoded, it has a payload, the payload holds bytes, and these hold a document. -/
structure Steps (r : Received) (kind : MessageKind) (payload : String) (bytes : List UInt8)
    (found : List Violation) (xml : String) (root : Xml.Element) : Prop where
  /-- The encoding can be decoded. -/
  encoding : checkEncoding r = .ok ()
  /-- The payload is present. -/
  carried : r.payload? = some (kind, payload)
  /-- It holds bytes. -/
  unpacked : payloadBytes r payload = .ok (bytes, found)
  /-- The bytes hold a document. -/
  parsed : document r.binding bytes = .ok (xml, root)

/-- A message is what the steps of decoding gave, with the finding about the
signature of the query behind the others. -/
theorem decode_eq_ok_iff (check : Option SignatureCheck) (r : Received) (m : Message) :
    decode check r = .ok m ↔ ∃ kind payload bytes found xml root,
      Steps r kind payload bytes found xml root ∧
        m = ⟨r, kind, xml, root, found ++ (signatureFinding? r kind check).toList⟩ := by
  constructor
  · intro h
    -- Each step either ends decoding with a failure or hands its result to the next.
    unfold decode at h
    split at h
    · exact absurd h (by simp only [reduceCtorEq, not_false_eq_true])
    · rename_i hencoding
      split at h
      · exact absurd h (by simp only [reduceCtorEq, not_false_eq_true])
      · rename_i kind payload hpayload
        split at h
        · exact absurd h (by simp only [reduceCtorEq, not_false_eq_true])
        · rename_i bytes found hbytes
          split at h
          · exact absurd h (by simp only [reduceCtorEq, not_false_eq_true])
          · rename_i xml root hdocument
            exact ⟨kind, payload, bytes, found, xml, root,
              ⟨hencoding, hpayload, hbytes, hdocument⟩, (Except.ok.inj h).symm⟩
  · rintro ⟨kind, payload, bytes, found, xml, root, hs, rfl⟩
    simp only [decode, hs.encoding, hs.carried, hs.unpacked, hs.parsed]

/-- The bytes of a text are read as this text. -/
theorem document_encode (binding : Saml.Binding) (xml : String) :
    document binding (Utf8.encode xml) =
      match Xml.parse xml with
      | .ok root => .ok (xml, root)
      | .error e => .error ⟨.malformedXml, binding, e.message⟩ := by
  simp only [document, Utf8.decode_encode]
  cases Xml.parse xml <;> rfl

/-- The bytes of a message are those of a text that holds a document. -/
theorem document_eq_ok_iff (binding : Saml.Binding) (bytes : List UInt8) (xml : String)
    (root : Xml.Element) :
    document binding bytes = .ok (xml, root) ↔
      bytes = Utf8.encode xml ∧ Xml.parse xml = .ok root := by
  constructor
  · intro h
    unfold document at h
    split at h
    · exact absurd h (by simp only [reduceCtorEq, not_false_eq_true])
    · rename_i text htext
      split at h
      · exact absurd h (by simp only [reduceCtorEq, not_false_eq_true])
      · rename_i root' hroot
        obtain ⟨rfl, rfl⟩ := Prod.mk.inj (Except.ok.inj h)
        exact ⟨(Utf8.decode_eq_ok_iff bytes text).mp htext, hroot⟩
  · rintro ⟨rfl, hroot⟩
    rw [document_encode, hroot]

/-- Without a check nothing is found about the signature. -/
theorem signatureFinding?_none (r : Received) (kind : MessageKind) :
    signatureFinding? r kind none = none := by
  unfold signatureFinding? querySignatureFinding?
  split
  · split
    · rfl
    · rfl
  · rfl

/-- The check of signatures decides neither whether there is a message nor what it
says; it adds its finding behind those that are there without it. -/
theorem decode_eq_map (check : Option SignatureCheck) (r : Received) :
    decode check r = (decode none r).map fun m =>
      { m with findings := m.findings ++ (signatureFinding? r m.kind check).toList } := by
  -- No step but the last knows of the check, so both sides fail alike.
  unfold decode
  cases checkEncoding r with
  | error e => rfl
  | ok _ =>
      cases r.payload? with
      | none => rfl
      | some p =>
          rcases p with ⟨kind, payload⟩
          cases hbytes : payloadBytes r payload with
          | error e => simp only [hbytes]; rfl
          | ok b =>
              rcases b with ⟨bytes, found⟩
              cases hdocument : document r.binding bytes with
              | error e => simp only [hbytes, hdocument]; rfl
              | ok d =>
                  -- Without a check the findings end with those of the payload.
                  rcases d with ⟨xml, root⟩
                  simp only [hbytes, hdocument, Except.map, signatureFinding?_none,
                    Option.toList_none, List.append_nil]

/-- Responses that are the same to every step hold the same message, but for what was
captured. -/
theorem decode_congr (check : Option SignatureCheck) {r r' : Received}
    (hbinding : r'.binding = r.binding) (hencoding : checkEncoding r' = checkEncoding r)
    (hpayload : r'.payload? = r.payload?)
    (hbytes : ∀ payload, payloadBytes r' payload = payloadBytes r payload)
    (hsignature : ∀ kind, signatureFinding? r' kind check = signatureFinding? r kind check) :
    decode check r' = (decode check r).map fun m => { m with received := r' } := by
  unfold decode
  rw [hencoding, hpayload]
  cases checkEncoding r with
  | error e => rfl
  | ok _ =>
      cases r.payload? with
      | none => rw [hbinding]; rfl
      | some p =>
          rcases p with ⟨kind, payload⟩
          simp only [hbytes, hbinding]
          cases payloadBytes r payload with
          | error e => rfl
          | ok b =>
              rcases b with ⟨bytes, found⟩
              cases hdocument : document r.binding bytes with
              | error e => simp only [hdocument]; rfl
              | ok d =>
                  rcases d with ⟨xml, root⟩
                  simp only [hdocument, hsignature]
                  rfl

theorem payloadBytes_error_binding (r : Received) (payload : String) (e : DecodeError)
    (h : payloadBytes r payload = .error e) : e.binding = r.binding := by
  unfold payloadBytes at h
  cases hb : r.binding with
  | redirect =>
      rw [hb] at h
      exact Redirect.decode_error_binding r.fields payload e h
  | post =>
      rw [hb] at h
      cases hp : Post.decode payload with
      | error e' =>
          rw [hp] at h
          rw [← Except.error.inj h]
          exact (Post.decode_error payload e' hp).2
      | ok bytes =>
          rw [hp] at h
          exact absurd h (by simp only [Except.map, reduceCtorEq, not_false_eq_true])

theorem document_error_binding (binding : Saml.Binding) (bytes : List UInt8) (e : DecodeError)
    (h : document binding bytes = .error e) : e.binding = binding := by
  unfold document at h
  split at h
  · rw [← Except.error.inj h]
  · split at h
    · rw [← Except.error.inj h]
    · exact absurd h (by simp only [reduceCtorEq, not_false_eq_true])

/-- A failure to decode speaks of the binding on which the response arrived. -/
theorem decode_error_binding (check : Option SignatureCheck) (r : Received) (e : DecodeError)
    (h : decode check r = .error e) : e.binding = r.binding := by
  unfold decode at h
  split at h
  · rename_i e' he
    rw [← Except.error.inj h]
    unfold checkEncoding at he
    split at he
    · rename_i hb
      rw [hb]
      exact Redirect.checkEncoding_error_binding r.fields e' he
    · exact absurd he (by simp only [reduceCtorEq, not_false_eq_true])
  · split at h
    · rw [← Except.error.inj h]
    · rename_i payload _
      split at h
      · rename_i e' he
        rw [← Except.error.inj h]
        exact payloadBytes_error_binding r payload e' he
      · split at h
        · rename_i bytes _ _ _ e' he
          rw [← Except.error.inj h]
          exact document_error_binding r.binding bytes e' he
        · exact absurd h (by simp only [reduceCtorEq, not_false_eq_true])

/-- A message keeps what was captured. -/
theorem received_of_decode (check : Option SignatureCheck) (r : Received) (m : Message)
    (h : decode check r = .ok m) : m.received = r := by
  rcases (decode_eq_ok_iff check r m).mp h with ⟨_, _, _, _, _, _, _, rfl⟩
  rfl

end Message

/-- A document as it arrives in a form, as a response without a relay state. -/
def Received.posted (xml : String) : Received :=
  ⟨.post, 200, [(Saml.Parameter.response.name, Post.encode xml)], false⟩

/-- Only an empty text has an empty payload. -/
theorem Post.eq_empty_of_encode (xml : String) (h : (Post.encode xml).isEmpty = true) :
    xml = "" := by
  have hempty : Base64.encode (Utf8.encode xml) = Base64.encode (Utf8.encode "") := by
    rw [← Post.encode, String.isEmpty_iff.mp h]
    rfl
  refine Utf8.encode_injective xml "" ?_
  have hbytes := Base64.decode_encode (Utf8.encode xml)
  rw [hempty, Base64.decode_encode] at hbytes
  exact (Except.ok.inj hbytes).symm

/-- A document that is put into a form is the message in it, and nothing is found on the
way. -/
theorem Message.decode_posted (check : Option SignatureCheck) (xml : String)
    (root : Xml.Element) (h : Xml.parse xml = .ok root) :
    decode check (.posted xml) = .ok ⟨.posted xml, .response, xml, root, []⟩ := by
  have hnonempty : (Post.encode xml).isEmpty = false := by
    cases hempty : (Post.encode xml).isEmpty with
    | false => rfl
    | true =>
        -- There is no document in an empty text.
        have hnone : (Xml.parse "").toOption.isNone = true := by decide +kernel
        rw [← Post.eq_empty_of_encode xml hempty, h] at hnone
        exact absurd hnone Bool.false_ne_true
  refine (decode_eq_ok_iff check _ _).mpr ⟨.response, Post.encode xml, Utf8.encode xml, [], xml,
    root, ⟨rfl, rfl, ?_, ?_⟩, rfl⟩
  · rw [payloadBytes, Received.posted, Post.decode, hnonempty, if_neg Bool.false_ne_true,
      Post.encode, Base64.decode_encode]
    rfl
  · rw [document_encode, h]

end SamlConformance
