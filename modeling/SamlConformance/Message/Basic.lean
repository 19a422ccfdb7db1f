import SamlConformance.Message.Post
import SamlConformance.Message.QuerySignature
import SamlConformance.Xml.Document

/-!
# Decoded Messages

A captured response becomes a message when its payload yields a document. The
steps are the same on both bindings: find the payload, get its bytes, read them
as text, read the text as XML. On redirects the encoding is checked before and
the signature of the query after, and neither the signature nor stray blanks
stand in the way of a message: they are findings.

## Main definitions

* `Message`: What was captured and what it says.
* `Message.decode`: The message of a captured response.
-/

namespace SamlConformance

/-- A decoded response. -/
structure Message where
  /-- What was captured. -/
  received : Received
  /-- The payload field that carried the message. -/
  kind : MessageKind
  /-- The text of the message. -/
  xml : String
  /-- Its document element. -/
  root : Xml.Element
  /-- What was found while decoding. -/
  findings : List Violation

namespace Message

/-- The bytes of a payload, and what was found on the way. -/
def payloadBytes (r : Received) (payload : String) :
    Except DecodeError (List UInt8 × List Violation) :=
  match r.binding with
  | .post => (Post.decode payload).map fun bytes => (bytes, [])
  | .redirect => Redirect.decode r.fields payload

/-- The text and the document element in the bytes of a message. -/
def document (binding : Saml.Binding) (bytes : List UInt8) :
    Except DecodeError (String × Xml.Element) :=
  match Utf8.decode bytes with
  | .error f => .error ⟨.malformedXml, binding, f.message⟩
  | .ok xml =>
    match Xml.parse xml with
    | .error e => .error ⟨.malformedXml, binding, e.message⟩
    | .ok root => .ok (xml, root)

/-- The check of the encoding, which only redirects have. -/
def checkEncoding (r : Received) : Except DecodeError Unit :=
  match r.binding with
  | .redirect => Redirect.checkEncoding r.fields
  | .post => .ok ()

/-- The finding about the signature of the query, which only redirects have. -/
def signatureFinding? (r : Received) (kind : MessageKind) (check : Option SignatureCheck) :
    Option Violation :=
  match r.binding with
  | .redirect => querySignatureFinding? r.fields kind check
  | .post => none

/-- The message of a captured response. -/
def decode (check : Option SignatureCheck) (r : Received) : Except DecodeError Message :=
  match checkEncoding r with
  | .error e => .error e
  | .ok () =>
    match r.payload? with
    | none => .error ⟨.missingPayload, r.binding, "no SAMLResponse or SAMLRequest field"⟩
    | some (kind, payload) =>
      match payloadBytes r payload with
      | .error e => .error e
      | .ok (bytes, findings) =>
        match document r.binding bytes with
        | .error e => .error e
        | .ok (xml, root) =>
          .ok ⟨r, kind, xml, root, findings ++ (signatureFinding? r kind check).toList⟩

/-- A redirect that carries a signature of its query. -/
def hasQuerySignature (m : Message) : Bool :=
  m.received.binding == .redirect && m.received.has .signature

end Message

end SamlConformance
