import SamlConformance.Saml.Vocabulary
import SamlConformance.Spec.Violation

/-!
# Failures to Decode

Why no message could be obtained from a captured response. A failure breaches
clauses that depend on the binding, with one exception: an encoding this toolkit
does not know is no fault of the provider, breaches nothing, and is never
recorded.

## Main definitions

* `DecodeError`: The kind of failure, the binding, and the detail.
* `DecodeError.clauses`: The breached clauses.
* `DecodeError.violation?`: The failure as a violation.
-/

namespace SamlConformance

/-- What went wrong. -/
inductive DecodeError.Kind where
  /-- There is no payload. -/
  | missingPayload
  /-- The payload is not base64. -/
  | malformed
  /-- The payload is not a complete compressed stream. -/
  | inflateFailed
  /-- The payload is blank. -/
  | whitespaceDetected
  /-- The payload is in an encoding unknown here. -/
  | unsupportedEncoding
  /-- The message is not well-formed XML. -/
  | malformedXml
deriving Repr, DecidableEq

/-- Why a captured response could not be decoded. -/
structure DecodeError where
  /-- What went wrong. -/
  kind : DecodeError.Kind
  /-- The binding of the response. -/
  binding : Saml.Binding
  /-- The particulars. -/
  detail : String
deriving Repr, DecidableEq

namespace DecodeError

/-- The kind in words. -/
def Kind.name : Kind → String
  | missingPayload => "missing payload"
  | malformed => "malformed base64"
  | inflateFailed => "inflate failed"
  | whitespaceDetected => "whitespace detected"
  | unsupportedEncoding => "unsupported encoding"
  | malformedXml => "malformed XML"

/-- The clauses a failure of this kind breaches on a binding. -/
def Kind.clauses : Kind → Saml.Binding → List Clause
  | missingPayload, .redirect => [.bindings_3_4_4_b]
  | missingPayload, .post => [.bindings_3_5_4_b]
  | malformed, .redirect => [.bindings_3_4_4_1_c]
  | malformed, .post => [.bindings_3_5_4_a]
  | inflateFailed, _ => [.bindings_3_4_4_1_b, .bindings_3_4_4_1_a]
  | whitespaceDetected, _ => [.bindings_3_4_4_1_b]
  | malformedXml, _ => [.schema]
  | unsupportedEncoding, _ => []

/-- The clauses the failure breaches. -/
def clauses (e : DecodeError) : List Clause :=
  e.kind.clauses e.binding

/-- The failure lies with the test environment. -/
def isEnvironmental (e : DecodeError) : Bool :=
  e.kind == .unsupportedEncoding

/-- The wording of the failure. -/
def message (e : DecodeError) : String :=
  s!"{e.binding.name} decode failed ({e.kind.name}): {e.detail}"

/-- What the failure means to a reader of reports. -/
def explanation (e : DecodeError) : String :=
  match e.kind with
  | .missingPayload =>
    let source := match e.binding with
      | .redirect => "redirect"
      | .post => "POST"
    s!"No SAMLResponse or SAMLRequest found in the {source} response."
  | .malformed =>
    let source := match e.binding with
      | .redirect => "redirect"
      | .post => "POST"
    s!"Could not base64 decode the {source} SAML message."
  | .inflateFailed => "Could not inflate the SAML message."
  | .whitespaceDetected => "There were linefeeds or whitespace in the SAML message."
  | .malformedXml => "The decoded SAML message is not well-formed XML."
  | .unsupportedEncoding => "Only the DEFLATE SAMLEncoding is supported."

/-- The failure as a violation; none if it breaches nothing. -/
def violation? (e : DecodeError) : Option Violation :=
  match e.clauses with
  | [] => none
  | c :: cs => some ((cs.foldl Violation.also (.of c e.explanation)).because e.message)

end DecodeError

end SamlConformance
