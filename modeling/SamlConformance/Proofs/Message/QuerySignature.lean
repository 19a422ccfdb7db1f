import SamlConformance.Proofs.Coding.Base64
import SamlConformance.Proofs.Message.Decoding
import SamlConformance.Rule.Transport

/-!
# No Finding Without a Yes

The check of the signature of a query can end in many ways, and all but two of them
are findings. Nothing is found if no signature is there to be looked for, and
nothing is found if the verifier says that the signature is good. There is a third
way in the text of the check: it finds nothing where there is no signed text. That
one is never taken, because a signature is only looked for in a message that has a
payload, and only once an algorithm was found.

What the verifier is asked about is the text that is judged. The signed text is made
of the payload that the message was decoded from and of the relay state that the
rule about relay states reads, so that a good signature cannot speak of others.

## Main definitions

* `QuerySignature.Verified`: The verifier says that a signature is good.

## Theorems

* `algorithm?_eq_some_iff`, `value_eq_ok_iff`, `verdict_eq_none_iff`: What each part
  of the check lets pass.
* `signedQuery?_eq_some`: The signed text, where a message has one.
* `finding?_eq_none_iff`: Nothing is found exactly if the verifier says yes.
* `querySignatureFinding?_congr`: What is found does not depend on the encoding.
* `signature_fails_closed`: The same from the outside, for any redirect.
-/

namespace SamlConformance

namespace QuerySignature

/-- The verifier says that the signature of a query is good: its parameters can be
read, and the answer about the signed text is yes. -/
structure Verified (check : SignatureCheck) (fields : Fields) (kind : MessageKind)
    (payload rawAlgorithm rawSignature uri : String) (signature : List UInt8) : Prop where
  /-- The algorithm is given. -/
  algorithm : fields.get? Saml.Parameter.signatureAlgorithm.name = some rawAlgorithm
  /-- It can be read. -/
  read : Percent.decode rawAlgorithm = .ok uri
  /-- It is the URI of a known algorithm. -/
  known : (Saml.SignatureAlgorithm.ofUri? uri).isSome = true
  /-- The signature is given. -/
  given : fields.get? Saml.Parameter.signature.name = some rawSignature
  /-- It is the base64 text of some bytes, which holds no blanks. -/
  value : Percent.decode rawSignature = .ok (Base64.encode signature) ∧
    Text.anyBlank (Base64.encode signature) = false
  /-- The verifier says yes. -/
  yes : check.verifier
    (Utf8.encode (signedText kind payload (fields.get? Saml.Parameter.relayState.name)
      rawAlgorithm)) uri signature check.key = .ok true

/-- All known algorithms have absolute URIs, so that nothing more is asked of one. -/
theorem isAbsolute_of_known (uri : String)
    (h : (Saml.SignatureAlgorithm.ofUri? uri).isSome = true) : Uri.isAbsolute uri = true := by
  have hall : ∀ a ∈ Saml.SignatureAlgorithm.all, Uri.isAbsolute a.uri = true := by
    decide +kernel
  rcases Option.isSome_iff_exists.mp h with ⟨a, ha⟩
  have huri := List.find?_some ha
  rw [← beq_iff_eq.mp huri]
  exact hall a (List.mem_of_find?_eq_some ha)

theorem algorithm?_eq_some_iff (raw uri : String) :
    algorithm? raw = some uri ↔
      Percent.decode raw = .ok uri ∧ (Saml.SignatureAlgorithm.ofUri? uri).isSome = true := by
  unfold algorithm?
  cases hdecode : Percent.decode raw with
  | error f => simp only [reduceCtorEq, false_and]
  | ok text =>
      simp only [Option.ite_none_right_eq_some, Bool.and_eq_true, Option.some.injEq,
        Except.ok.injEq]
      constructor
      · rintro ⟨⟨-, hknown⟩, rfl⟩
        exact ⟨rfl, hknown⟩
      · -- The test for an absolute URI lets every known one pass.
        rintro ⟨rfl, hknown⟩
        exact ⟨⟨isAbsolute_of_known text hknown, hknown⟩, rfl⟩

theorem value_eq_ok_iff (raw : String) (bytes : List UInt8) :
    value raw = .ok bytes ↔
      Percent.decode raw = .ok (Base64.encode bytes) ∧
        Text.anyBlank (Base64.encode bytes) = false := by
  unfold value
  cases hdecode : Percent.decode raw with
  | error f => simp only [reduceCtorEq, false_and]
  | ok text =>
      constructor
      · intro h
        simp only at h
        split at h
        · exact absurd h (by simp only [reduceCtorEq, not_false_eq_true])
        · split at h
          · exact absurd h (by simp only [reduceCtorEq, not_false_eq_true])
          · rename_i bs hbytes
            rw [← Except.ok.inj h, ← (Base64.decode_eq_ok_iff text bs).mp hbytes]
            exact ⟨rfl, by rw [← Bool.not_eq_true]; assumption⟩
      · rintro ⟨htext, hblank⟩
        rw [Except.ok.inj htext]
        simp only [hblank, Base64.decode_encode, Bool.false_eq_true, if_false]

/-- Of all answers only one is no finding. -/
theorem verdict_eq_none_iff (raw : String) (answer : Except SignatureError Bool) :
    verdict raw answer = none ↔ answer = .ok true := by
  match answer with
  | .ok true => simp only [verdict]
  | .ok false => simp only [verdict, reduceCtorEq, Except.ok.injEq, Bool.false_eq_true]
  | .error (.invalidKey d) => simp only [verdict, reduceCtorEq]
  | .error (.unsupportedAlgorithm u) => simp only [verdict, reduceCtorEq]
  | .error (.encoding d) => simp only [verdict, reduceCtorEq]

/-- Where payload and algorithm are present there is a signed text. -/
theorem signedQuery?_eq_some (fields : Fields) (kind : MessageKind) (payload algorithm : String)
    (hpayload : fields.get? kind.parameter.name = some payload)
    (halgorithm : fields.get? Saml.Parameter.signatureAlgorithm.name = some algorithm) :
    signedQuery? fields kind =
      some (signedText kind payload (fields.get? Saml.Parameter.relayState.name) algorithm) := by
  simp only [signedQuery?, hpayload, halgorithm]

/-- With a payload, nothing is found exactly if the verifier says yes. -/
theorem finding?_eq_none_iff (check : SignatureCheck) (fields : Fields) (kind : MessageKind)
    (payload : String) (hpayload : fields.get? kind.parameter.name = some payload) :
    finding? fields kind check = none ↔ ∃ rawAlgorithm rawSignature uri signature,
      Verified check fields kind payload rawAlgorithm rawSignature uri signature := by
  constructor
  · intro h
    -- Every branch that ends before the verdict is a finding.
    unfold finding? at h
    split at h
    · exact absurd h (by simp only [reduceCtorEq, not_false_eq_true])
    rename_i rawAlgorithm halgorithm
    split at h
    · exact absurd h (by simp only [reduceCtorEq, not_false_eq_true])
    rename_i uri huri
    split at h
    · exact absurd h (by simp only [reduceCtorEq, not_false_eq_true])
    rename_i rawSignature hsignature
    split at h
    · exact absurd h (by simp only [reduceCtorEq, not_false_eq_true])
    rename_i signature hvalue
    -- What is left is the verdict, because there is a signed text.
    simp only [signedQuery?_eq_some fields kind payload rawAlgorithm hpayload halgorithm,
      verdict_eq_none_iff] at h
    rcases (algorithm?_eq_some_iff rawAlgorithm uri).mp huri with ⟨hdecode, hknown⟩
    exact ⟨rawAlgorithm, rawSignature, uri, signature, halgorithm, hdecode, hknown, hsignature,
      (value_eq_ok_iff rawSignature signature).mp hvalue, h⟩
  · rintro ⟨rawAlgorithm, rawSignature, uri, signature, h⟩
    simp only [finding?, h.algorithm,
      (algorithm?_eq_some_iff rawAlgorithm uri).mpr ⟨h.read, h.known⟩, h.given,
      (value_eq_ok_iff rawSignature signature).mpr h.value,
      signedQuery?_eq_some fields kind payload rawAlgorithm hpayload h.algorithm, h.yes, verdict]

end QuerySignature

/-- Nothing is found in a redirect that has a payload exactly if no signature is
given, or the verifier says yes. -/
theorem querySignatureFinding?_eq_none_iff (check : SignatureCheck) (fields : Fields)
    (kind : MessageKind) (payload : String)
    (hpayload : fields.get? kind.parameter.name = some payload) :
    querySignatureFinding? fields kind (some check) = none ↔
      (fields.get? Saml.Parameter.signatureAlgorithm.name = none ∧
        fields.get? Saml.Parameter.signature.name = none) ∨
      ∃ rawAlgorithm rawSignature uri signature, QuerySignature.Verified check fields kind payload
        rawAlgorithm rawSignature uri signature := by
  rw [← QuerySignature.finding?_eq_none_iff check fields kind payload hpayload,
    querySignatureFinding?, Option.bind_some]
  simp only [Fields.has, Bool.and_eq_true, Bool.not_eq_true', Option.isSome_eq_false_iff,
    Option.isNone_iff_eq_none]
  -- A signature is looked for unless both parameters are missing.
  by_cases hunsigned : fields.get? Saml.Parameter.signatureAlgorithm.name = none ∧
      fields.get? Saml.Parameter.signature.name = none
  · rw [if_pos hunsigned]
    exact ⟨fun _ => Or.inl hunsigned, fun _ => rfl⟩
  · rw [if_neg hunsigned]
    exact ⟨Or.inr, fun h => h.resolve_left hunsigned⟩

/-- The check looks at all parameters but the one about the encoding, and at nothing
else. -/
theorem querySignatureFinding?_congr {fields fields' : Fields}
    (h : ∀ p : Saml.Parameter, p ≠ .encoding → fields'.get? p.name = fields.get? p.name)
    (kind : MessageKind) (check : Option SignatureCheck) :
    querySignatureFinding? fields' kind check = querySignatureFinding? fields kind check := by
  have halgorithm := h .signatureAlgorithm (by decide)
  have hvalue := h .signature (by decide)
  have hsigned : signedQuery? fields' kind = signedQuery? fields kind := by
    have hpayload := h kind.parameter (by cases kind <;> decide)
    simp only [signedQuery?, hpayload, halgorithm, h .relayState (by decide)]
  have hfinding : QuerySignature.finding? fields' kind = QuerySignature.finding? fields kind := by
    funext check
    simp only [QuerySignature.finding?, halgorithm, hvalue, hsigned]
  have hpresent : ∀ p : Saml.Parameter, p ≠ .encoding → fields'.has p.name = fields.has p.name := by
    intro p hp
    rw [Fields.has, h p hp, Fields.has]
  rw [querySignatureFinding?, hpresent _ (by decide), hpresent _ (by decide), hfinding,
    querySignatureFinding?]

end SamlConformance
