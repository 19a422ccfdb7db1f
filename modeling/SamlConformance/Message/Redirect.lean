import SamlConformance.Coding.Base64
import SamlConformance.Coding.Percent
import SamlConformance.Deflate.Inflate
import SamlConformance.Message.DecodeError
import SamlConformance.Message.Received
import SamlConformance.Uri.Absolute

/-!
# Payloads of Redirects

A query parameter holds the message compressed, then in base64, then with
percent escapes. Another encoding can be named in a parameter of its own; one
that is a URI but not the known one cannot be decoded here, while a value that
is no URI is for the rules to judge.

Blanks inside the payload are reported and otherwise ignored.

## Main definitions

* `Redirect.checkEncoding`: The encoding is one that can be decoded.
* `Redirect.decode`: The bytes of the message, with findings.
* `Redirect.encodeWith`: The query that carries a message, for a way of compressing.
* `Redirect.encode`: The same with plain blocks.
-/

namespace SamlConformance

namespace Redirect

/-- Resolves percent escapes in a payload or its encoding. -/
def unescaped (value : String) : Except DecodeError String :=
  match Percent.decode value with
  | .ok s => .ok s
  | .error f => .error ⟨.malformed, .redirect, f.message⟩

/-- Fails if the fields name an encoding that is a URI but not the known one. -/
def checkEncoding (fields : Fields) : Except DecodeError Unit :=
  match fields.get? Saml.Parameter.encoding.name with
  | none => .ok ()
  | some value =>
    match unescaped value with
    | .error e => .error e
    | .ok encoding =>
      if encoding ≠ Saml.deflateEncoding ∧ Uri.isAbsolute encoding then
        .error ⟨.unsupportedEncoding, .redirect, encoding⟩
      else .ok ()

/-- What is reported where a payload holds blanks. -/
def blanksFound : Violation :=
  .of .bindings_3_4_4_1_b "There were linefeeds or whitespace in the SAML message."

/-- The wording of a fault in the compressed stream. -/
def inflateDetail : Deflate.Fault → String
  | .truncated => "raw DEFLATE stream is truncated"
  | .corrupt => "deflate decompression error"

/-- The bytes that base64 text without blanks holds in compressed form. -/
def inflated (compact : String) : Except DecodeError (List UInt8) :=
  match Base64.decode compact with
  | .error f => .error ⟨.malformed, .redirect, f.message⟩
  | .ok stream =>
    match Deflate.inflate stream with
    | .error f => .error ⟨.inflateFailed, .redirect, inflateDetail f⟩
    | .ok bytes => .ok bytes

/-- The bytes a payload holds, and what was found on the way. -/
def decode (fields : Fields) (payload : String) :
    Except DecodeError (List UInt8 × List Violation) :=
  match checkEncoding fields with
  | .error e => .error e
  | .ok () =>
    match unescaped payload with
    | .error e => .error e
    | .ok text =>
      if Text.allBlank text then
        .error ⟨.whitespaceDetected, .redirect, "payload is blank"⟩
      else
        match inflated (Text.withoutBlanks text) with
        | .error e => .error e
        | .ok bytes => .ok (bytes, if Text.anyBlank text then [blanksFound] else [])

/-- The query that carries a message, and a relay state if there is one. Any way of
compressing the message will do. -/
def encodeWith (deflate : List UInt8 → List UInt8) (xml : String) (kind : MessageKind)
    (relayState : Option String) : String :=
  let text := Base64.encode (deflate (Utf8.encode xml))
  let payload := kind.parameter.name ++ "=" ++ Percent.encode text
  match relayState with
  | none => payload
  | some rs => payload ++ "&" ++ Saml.Parameter.relayState.name ++ "=" ++ Percent.encode rs

/-- The query that carries a message in plain blocks. -/
def encode (xml : String) (kind : MessageKind) (relayState : Option String) : String :=
  encodeWith Deflate.store xml kind relayState

end Redirect

end SamlConformance
