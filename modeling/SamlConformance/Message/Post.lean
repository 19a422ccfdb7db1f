import SamlConformance.Coding.Base64
import SamlConformance.Message.DecodeError

/-!
# Payloads of Forms

A form control holds the base64 text of the message and nothing else: line
breaks are not tolerated, and an empty control counts as none.

## Main definitions

* `Post.decode`: The bytes of the message.
* `Post.encode`: The control value of a message.
-/

namespace SamlConformance

namespace Post

/-- The bytes a control value holds. -/
def decode (payload : String) : Except DecodeError (List UInt8) :=
  if payload.isEmpty then
    .error ⟨.missingPayload, .post, "payload form control is empty"⟩
  else
    match Base64.decode payload with
    | .ok bytes => .ok bytes
    | .error f => .error ⟨.malformed, .post, f.message⟩

/-- The control value of a message. -/
def encode (xml : String) : String :=
  Base64.encode (Utf8.encode xml)

end Post

end SamlConformance
