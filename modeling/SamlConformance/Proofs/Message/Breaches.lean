import SamlConformance.Proofs.Judge.Accounting
import SamlConformance.Proofs.Rule.Breaches.Basic

/-!
# What Decoding Can Breach

Before any rule runs, decoding finds faults of its own: the one that ends it, or those that
it only notes. Both kinds keep to the binding on which a response arrived. On a form there
is nothing to be noted, and of the failures only those are left that a form can have; the
table of clauses alone would not show it, since it puts the failures of compressed payloads
in the chapter about redirects whatever the binding.

Which failures can occur follows from the step that failed, so these are told apart first.
The last of them is a check of the document, which begins as soon as there are bytes.

## Main definitions

* `Message.Reaches`: The bytes of a payload reach the check of the document.
* `Saml.Binding.breachedByFailure`, `Saml.Binding.breachedByPayload`,
  `Saml.Binding.breachedBySignature`: The clauses that decoding breaches on a binding.

## Theorems

* `decode_error_cases`: The step that failed.
* `decode_error_of_reaches`, `decode_ok_of_reaches`: From there on the document decides.
* `not_isEnvironmental_of_checkEncoding`: Which failures lie with the provider.
* `onlyBreach_decode_error`: What the failure breaches.
* `onlyBreach_findings`: What is noted breaches.
-/

namespace SamlConformance

/-- A failure breaches the clauses of its kind. -/
theorem DecodeError.onlyBreach_violation? (e : DecodeError) :
    OnlyBreach e.violation?.toList e.clauses := by
  by_cases henv : e.isEnvironmental = true
  · have hnone : e.violation? = none := by
      rcases e with ⟨kind, binding, detail⟩
      cases beq_iff_eq.mp henv
      rfl
    rw [hnone]
    exact onlyBreach_nil
  · rcases Session.violation?_of_not_environmental e henv with ⟨v, hv, hclauses⟩
    rw [hv, ← hclauses]
    intro u hu
    rw [List.mem_singleton.mp hu]
    exact List.Subset.refl _

namespace Message

/-- The bytes of a payload reach the check of the document: everything before it went
well. -/
structure Reaches (r : Received) (kind : MessageKind) (payload : String) (bytes : List UInt8)
    (found : List Violation) : Prop where
  /-- The encoding can be decoded. -/
  encoding : checkEncoding r = .ok ()
  /-- The payload is present. -/
  carried : r.payload? = some (kind, payload)
  /-- It holds bytes. -/
  unpacked : payloadBytes r payload = .ok (bytes, found)

/-- The step of decoding that failed. -/
theorem decode_error_cases (check : Option SignatureCheck) (r : Received) (e : DecodeError)
    (h : decode check r = .error e) :
    checkEncoding r = .error e ∨
      (r.payload? = none ∧ e.kind = .missingPayload) ∨
      (∃ payload, payloadBytes r payload = .error e) ∨
      ∃ kind payload bytes found, Reaches r kind payload bytes found ∧
        document r.binding bytes = .error e := by
  unfold decode at h
  split at h
  · rename_i e' he
    exact Or.inl (he.trans (congrArg _ (Except.error.inj h)))
  rename_i hencoding
  split at h
  · rename_i hpayload
    exact Or.inr (Or.inl ⟨hpayload, by rw [← Except.error.inj h]⟩)
  rename_i kind payload hpayload
  split at h
  · rename_i e' he
    exact Or.inr (Or.inr (Or.inl ⟨payload, he.trans (congrArg _ (Except.error.inj h))⟩))
  rename_i bytes found hbytes
  split at h
  · rename_i e' he
    exact Or.inr (Or.inr (Or.inr ⟨kind, payload, bytes, found, ⟨hencoding, hpayload, hbytes⟩,
      he.trans (congrArg _ (Except.error.inj h))⟩))
  · exact absurd h (by simp only [reduceCtorEq, not_false_eq_true])

section

variable {r : Received} {kind : MessageKind} {payload : String} {bytes : List UInt8}
variable {found : List Violation} (hr : Reaches r kind payload bytes found)

include hr

/-- Bytes that hold no document are the end of decoding. -/
theorem decode_error_of_reaches (check : Option SignatureCheck) {e : DecodeError}
    (h : document r.binding bytes = .error e) : decode check r = .error e := by
  simp only [decode, hr.encoding, hr.carried, hr.unpacked, h]

/-- Bytes that hold a document are a message. -/
theorem decode_ok_of_reaches (check : Option SignatureCheck) {xml : String}
    {root : Xml.Element} (h : document r.binding bytes = .ok (xml, root)) :
    decode check r =
      .ok ⟨r, kind, xml, root, found ++ (signatureFinding? r kind check).toList⟩ := by
  simp only [decode, hr.encoding, hr.carried, hr.unpacked, h]

end

/-- A check of the document that fails says so. -/
theorem document_error_kind (binding : Saml.Binding) (bytes : List UInt8) (e : DecodeError)
    (h : document binding bytes = .error e) : e.kind = .malformedXml := by
  unfold document at h
  split at h
  · rw [← Except.error.inj h]
  split at h
  · rw [← Except.error.inj h]
  · exact absurd h (by simp only [reduceCtorEq, not_false_eq_true])

end Message

namespace Saml.Binding

/-- The clauses that the failures of decoding breach. -/
def breachedByFailure : Saml.Binding → List Clause
  | .redirect =>
    [.bindings_3_4_4_b, .bindings_3_4_4_1_a, .bindings_3_4_4_1_b, .bindings_3_4_4_1_c, .schema]
  | .post => [.bindings_3_5_4_a, .bindings_3_5_4_b, .schema]

/-- The clauses that are breached by what is noted in a payload. -/
def breachedByPayload : Saml.Binding → List Clause
  | .redirect => [.bindings_3_4_4_1_b]
  | .post => []

/-- The clauses that are breached by the signature of a query. -/
def breachedBySignature : Saml.Binding → List Clause
  | .redirect =>
    [.bindings_3_4_4_1_e, .bindings_3_4_4_1_f, .bindings_3_4_4_1_g, .bindings_3_1_2_1_a, .general_a]
  | .post => []

end Saml.Binding

namespace QuerySignature

open Saml.Binding (breachedBySignature)

theorem onlyBreach_value (raw : String) (v : Violation) (h : value raw = .error v) :
    OnlyBreach [v] (breachedBySignature .redirect) := by
  unfold value at h
  split at h
  · rw [← Except.error.inj h]
    exact (onlyBreach_of _ (by decide)).because _
  split at h
  · rw [← Except.error.inj h]
    exact onlyBreach_of _ (by decide)
  split at h
  · rw [← Except.error.inj h]
    exact (onlyBreach_of _ (by decide)).because _
  · exact absurd h (by simp only [reduceCtorEq, not_false_eq_true])

theorem onlyBreach_verdict (raw : String) (answer : Except SignatureError Bool) :
    OnlyBreach (verdict raw answer).toList (breachedBySignature .redirect) := by
  match answer with
  | .ok true => exact onlyBreach_nil
  | .ok false => exact (onlyBreach_of "Invalid signature." (by decide)).also (by decide)
  | .error (.invalidKey d) =>
      exact (onlyBreach_of "The certificate was invalid." (by decide)).because _
  | .error (.unsupportedAlgorithm u) => exact OnlyBreach.because (onlyBreach_of _ (by decide)) _
  | .error (.encoding d) =>
      exact OnlyBreach.because (onlyBreach_of "Invalid signature value." (by decide)) _

theorem onlyBreach_finding? (fields : Fields) (kind : MessageKind) (check : SignatureCheck) :
    OnlyBreach (finding? fields kind check).toList (breachedBySignature .redirect) := by
  unfold finding?
  split
  · exact onlyBreach_of _ (by decide)
  split
  · exact onlyBreach_of _ (by decide)
  split
  · exact onlyBreach_of _ (by decide)
  split
  · rename_i v hv
    exact onlyBreach_value _ v hv
  split
  · exact onlyBreach_nil
  · exact onlyBreach_verdict _ _

end QuerySignature

namespace Message

/-- The payload of a form leaves nothing to be noted, and that of a redirect blanks at
most. -/
theorem onlyBreach_payloadBytes (r : Received) (payload : String) (bytes : List UInt8)
    (found : List Violation) (h : payloadBytes r payload = .ok (bytes, found)) :
    OnlyBreach found r.binding.breachedByPayload := by
  unfold payloadBytes at h
  cases hb : r.binding with
  | post =>
      rw [hb] at h
      cases hp : Post.decode payload with
      | error e =>
          rw [hp] at h
          exact absurd h (by simp only [Except.map, reduceCtorEq, not_false_eq_true])
      | ok bytes' =>
          rw [hp] at h
          rw [← (Prod.mk.inj (Except.ok.inj h)).2]
          exact onlyBreach_nil
  | redirect =>
      simp only [hb, Redirect.decode] at h
      split at h
      · exact absurd h (by simp only [reduceCtorEq, not_false_eq_true])
      split at h
      · exact absurd h (by simp only [reduceCtorEq, not_false_eq_true])
      split at h
      · exact absurd h (by simp only [reduceCtorEq, not_false_eq_true])
      split at h
      · exact absurd h (by simp only [reduceCtorEq, not_false_eq_true])
      · rw [← (Prod.mk.inj (Except.ok.inj h)).2]
        split
        · exact onlyBreach_of _ (by decide)
        · exact onlyBreach_nil

theorem onlyBreach_signatureFinding? (r : Received) (kind : MessageKind)
    (check : Option SignatureCheck) :
    OnlyBreach (signatureFinding? r kind check).toList r.binding.breachedBySignature := by
  unfold signatureFinding?
  cases r.binding with
  | post => exact onlyBreach_nil
  | redirect =>
      simp only [querySignatureFinding?]
      split
      · exact onlyBreach_nil
      cases check with
      | none => exact onlyBreach_nil
      | some check => exact QuerySignature.onlyBreach_finding? r.fields kind check

/-- What is noted in decoding is about the payload or about the signature. -/
theorem onlyBreach_findings (check : Option SignatureCheck) (r : Received) (m : Message)
    (h : decode check r = .ok m) :
    OnlyBreach m.findings (r.binding.breachedByPayload ++ r.binding.breachedBySignature) := by
  rcases (decode_eq_ok_iff check r m).mp h
    with ⟨kind, payload, bytes, found, xml, root, hsteps, rfl⟩
  refine onlyBreach_append ?_ ?_
  · exact (onlyBreach_payloadBytes r payload bytes found hsteps.unpacked).mono
      (List.subset_append_left _ _)
  · exact (onlyBreach_signatureFinding? r kind check).mono (List.subset_append_right _ _)

/-- A form fails in one of three ways. -/
theorem decode_error_kind_of_post (check : Option SignatureCheck) (r : Received)
    (e : DecodeError) (hpost : r.binding = .post) (h : decode check r = .error e) :
    e.kind = .missingPayload ∨ e.kind = .malformed ∨ e.kind = .malformedXml := by
  rcases decode_error_cases check r e h
    with hencoding | ⟨-, hmissing⟩ | ⟨payload, hbytes⟩ | ⟨_, _, bytes, _, -, hdocument⟩
  · rw [checkEncoding, hpost] at hencoding
    exact absurd hencoding (by simp only [reduceCtorEq, not_false_eq_true])
  · exact Or.inl hmissing
  · rw [payloadBytes, hpost] at hbytes
    cases hp : Post.decode payload with
    | ok bytes =>
        rw [hp] at hbytes
        exact absurd hbytes (by simp only [Except.map, reduceCtorEq, not_false_eq_true])
    | error e' =>
        rw [hp] at hbytes
        rcases (Post.decode_error payload e' hp).1 with hkind | hkind
        · exact Or.inl (Except.error.inj hbytes ▸ hkind)
        · exact Or.inr (Or.inl (Except.error.inj hbytes ▸ hkind))
  · exact Or.inr (Or.inr (document_error_kind r.binding bytes e hdocument))

/-- An encoding that is let pass is not what a payload fails for. -/
theorem payloadBytes_error_kind (r : Received) (payload : String) (e : DecodeError)
    (hencoding : checkEncoding r = .ok ()) (h : payloadBytes r payload = .error e) :
    e.kind ≠ .unsupportedEncoding := by
  unfold payloadBytes at h
  unfold checkEncoding at hencoding
  cases hb : r.binding with
  | post =>
      rw [hb] at h
      cases hp : Post.decode payload with
      | ok bytes =>
          rw [hp] at h
          exact absurd h (by simp only [Except.map, reduceCtorEq, not_false_eq_true])
      | error e' =>
          rw [hp] at h
          rw [← Except.error.inj h]
          rcases (Post.decode_error payload e' hp).1 with hkind | hkind <;> rw [hkind] <;> decide
  | redirect =>
      rw [hb] at h hencoding
      rcases Redirect.decode_error_cases r.fields payload e h
        with hfailed | ⟨hkind | hkind | hkind, -⟩
      · have hcontra := hencoding.symm.trans hfailed
        exact absurd hcontra (by simp only [reduceCtorEq, not_false_eq_true])
      all_goals
        rw [hkind]
        decide

/-- Behind the check of the encoding no failure lies with the test environment. -/
theorem not_isEnvironmental_of_checkEncoding (check : Option SignatureCheck) (r : Received)
    (e : DecodeError) (hencoding : checkEncoding r = .ok ()) (h : decode check r = .error e) :
    ¬ e.isEnvironmental = true := by
  have hkind : e.kind ≠ .unsupportedEncoding := by
    rcases decode_error_cases check r e h
      with hfailed | ⟨-, hmissing⟩ | ⟨payload, hbytes⟩ | ⟨_, _, bytes, _, -, hdocument⟩
    · rw [hencoding] at hfailed
      exact absurd hfailed (by simp only [reduceCtorEq, not_false_eq_true])
    · rw [hmissing]
      decide
    · exact payloadBytes_error_kind r payload e hencoding hbytes
    · rw [document_error_kind r.binding bytes e hdocument]
      decide
  exact fun henv => hkind (beq_iff_eq.mp henv)

/-- The failure that ends decoding keeps to the binding. -/
theorem onlyBreach_decode_error (check : Option SignatureCheck) (r : Received) (e : DecodeError)
    (h : decode check r = .error e) :
    OnlyBreach e.violation?.toList r.binding.breachedByFailure := by
  refine e.onlyBreach_violation?.mono ?_
  rw [DecodeError.clauses, decode_error_binding check r e h]
  cases hb : r.binding with
  | redirect =>
      -- Of redirects the whole table is in the list.
      cases e.kind <;> decide
  | post =>
      rcases decode_error_kind_of_post check r e hb h with hkind | hkind | hkind <;>
        rw [hkind] <;> decide

end Message

end SamlConformance
