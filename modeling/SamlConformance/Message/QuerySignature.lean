import SamlConformance.Message.Redirect
import SamlConformance.Signature.Contract

/-!
# Signatures of Redirects

A redirect is signed over its query, not over the message: over the payload, the
relay state if there is one, and the name of the algorithm, in this order and in
the spelling in which they were received.

A signature is looked for as soon as either of its two parameters is present, and
then both have to be there and to be usable; every way of not being good is a
finding of its own.

## Main definitions

* `signedText`: The text a signature covers.
* `signedQuery?`: The same for the parameters of a query.
* `querySignatureFinding?`: What is wrong with the signature of a redirect.
-/

namespace SamlConformance

/-- The text that a signature covers, made of raw values. -/
def signedText (kind : MessageKind) (payload : String) (relayState : Option String)
    (algorithm : String) : String :=
  let relayState := match relayState with
    | some rs => "&" ++ Saml.Parameter.relayState.name ++ "=" ++ rs
    | none => ""
  kind.parameter.name ++ "=" ++ payload ++ relayState ++
    "&" ++ Saml.Parameter.signatureAlgorithm.name ++ "=" ++ algorithm

/-- The text the signature of a redirect covers; none without the payload of that
kind or an algorithm. -/
def signedQuery? (fields : Fields) (kind : MessageKind) : Option String :=
  match fields.get? kind.parameter.name, fields.get? Saml.Parameter.signatureAlgorithm.name with
  | some payload, some algorithm =>
    some (signedText kind payload (fields.get? Saml.Parameter.relayState.name) algorithm)
  | _, _ => none

namespace QuerySignature

/-- The finding where the algorithm is unknown. -/
def unknownAlgorithm (raw : String) : Violation :=
  .of .bindings_3_4_4_1_e s!"The Signature algorithm named {raw} is unknown."

/-- The finding where the value of the signature is unusable. -/
def badValue (message : String) : Violation :=
  .of .bindings_3_4_4_1_g message

/-- The URI of the algorithm, if it is a known one. -/
def algorithm? (raw : String) : Option String :=
  match Percent.decode raw with
  | .ok uri =>
    if Uri.isAbsolute uri && (Saml.SignatureAlgorithm.ofUri? uri).isSome then some uri else none
  | .error _ => none

/-- The bytes of the signature, or the finding. -/
def value (raw : String) : Except Violation (List UInt8) :=
  match Percent.decode raw with
  | .error f => .error ((badValue "Signature could not be URL decoded.").because f.message)
  | .ok text =>
    if Text.anyBlank text then .error (badValue "Whitespace was found in the Signature.")
    else
      match Base64.decode text with
      | .error f =>
        .error ((badValue "Signature is not base64 encoded.").because
          (SignatureError.encoding f.message).message)
      | .ok bytes => .ok bytes

/-- The finding that the answer of a verifier means. -/
def verdict (rawAlgorithm : String) : Except SignatureError Bool → Option Violation
  | .ok true => none
  | .ok false => some ((Violation.of .general_a "Invalid signature.").also .bindings_3_4_4_1_f)
  | .error (.invalidKey d) =>
    some ((Violation.of .bindings_3_1_2_1_a "The certificate was invalid.").because
      (SignatureError.invalidKey d).message)
  | .error (.unsupportedAlgorithm u) =>
    some ((unknownAlgorithm rawAlgorithm).because (SignatureError.unsupportedAlgorithm u).message)
  | .error (.encoding d) =>
    some ((badValue "Invalid signature value.").because (SignatureError.encoding d).message)

/-- What is wrong with a signature that is looked for. -/
def finding? (fields : Fields) (kind : MessageKind) (check : SignatureCheck) : Option Violation :=
  match fields.get? Saml.Parameter.signatureAlgorithm.name with
  | none => some (.of .bindings_3_4_4_1_e "Signature Algorithm not found.")
  | some rawAlgorithm =>
    match algorithm? rawAlgorithm with
    | none => some (unknownAlgorithm rawAlgorithm)
    | some algorithm =>
      match fields.get? Saml.Parameter.signature.name with
      | none => some (badValue "Signature not found.")
      | some rawValue =>
        match value rawValue with
        | .error v => some v
        | .ok bytes =>
          match signedQuery? fields kind with
          | none => none
          | some signed =>
            verdict rawAlgorithm (check.verifier (Utf8.encode signed) algorithm bytes check.key)

end QuerySignature

/-- What is wrong with the signature of a redirect. Nothing is if neither of its
parameters is present, and nothing is looked for without a key. -/
def querySignatureFinding? (fields : Fields) (kind : MessageKind) (check : Option SignatureCheck) :
    Option Violation :=
  if !fields.has Saml.Parameter.signatureAlgorithm.name &&
      !fields.has Saml.Parameter.signature.name then none
  else check.bind (QuerySignature.finding? fields kind)

end SamlConformance
