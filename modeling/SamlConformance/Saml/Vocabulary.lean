/-!
# Identifiers of the Protocol

The namespaces, parameter names and URIs that the specification fixes. Where the
toolkit tells a closed set of identifiers apart, the set is a type: bindings,
name formats, signature algorithms, top-level status codes.

## Main definitions

* `Binding`: The two ways a message can arrive.
* `NameIdFormat`: The name formats with rules of their own.
* `SignatureAlgorithm`: The algorithms of detached signatures.
* `StatusCode`: The top-level status codes.
-/

namespace SamlConformance

namespace Saml

/-- The namespace of assertions. -/
def assertionNs : String := "urn:oasis:names:tc:SAML:2.0:assertion"

/-- The namespace of requests and responses. -/
def protocolNs : String := "urn:oasis:names:tc:SAML:2.0:protocol"

/-- The namespace of metadata. -/
def metadataNs : String := "urn:oasis:names:tc:SAML:2.0:metadata"

/-- The namespace of XML signatures. -/
def signatureNs : String := "http://www.w3.org/2000/09/xmldsig#"

/-- The namespace of schema instance attributes. -/
def instanceNs : String := "http://www.w3.org/2001/XMLSchema-instance"

/-- The namespaces of earlier versions, which a message must not use. -/
def earlierNamespaces : List String :=
  ["urn:oasis:names:tc:SAML:1.0:assertion", "urn:oasis:names:tc:SAML:1.0:protocol"]

/-- The version a message has to state. -/
def version : String := "2.0"

/-- The one encoding of redirect payloads. -/
def deflateEncoding : String := "urn:oasis:names:tc:SAML:2.0:bindings:URL-Encoding:DEFLATE"

/-- The most bytes a relay state may have. -/
def relayStateLimit : Nat := 80

/-- Names of query parameters and form controls. -/
inductive Parameter where
  /-- The payload of a request. -/
  | request
  /-- The payload of a response. -/
  | response
  /-- What the requester wants back unchanged. -/
  | relayState
  /-- The algorithm of a detached signature. -/
  | signatureAlgorithm
  /-- The value of a detached signature. -/
  | signature
  /-- How a redirect payload is encoded. -/
  | encoding
deriving Repr, DecidableEq

/-- The parameter in writing. -/
def Parameter.name : Parameter → String
  | request => "SAMLRequest"
  | response => "SAMLResponse"
  | relayState => "RelayState"
  | signatureAlgorithm => "SigAlg"
  | signature => "Signature"
  | encoding => "SAMLEncoding"

/-- The bindings a captured message can arrive on. -/
inductive Binding where
  /-- In the query of a redirect. -/
  | redirect
  /-- In the controls of a form. -/
  | post
deriving Repr, DecidableEq

namespace Binding

/-- The short name. -/
def name : Binding → String
  | redirect => "redirect"
  | post => "post"

/-- The URI. -/
def uri : Binding → String
  | redirect => "urn:oasis:names:tc:SAML:2.0:bindings:HTTP-Redirect"
  | post => "urn:oasis:names:tc:SAML:2.0:bindings:HTTP-POST"

/-- The binding with a given URI. -/
def ofUri? (s : String) : Option Binding :=
  [redirect, post].find? fun b => b.uri == s

/-- The binding with a given short name, in any letter case, or URI. -/
def ofName? (s : String) : Option Binding :=
  let lower := s.map Char.toLower
  if lower = "redirect" ∨ lower = "http-redirect" then some redirect
  else if lower = "post" ∨ lower = "http-post" then some post
  else ofUri? s

theorem ofUri?_uri (b : Binding) : ofUri? b.uri = some b := by
  cases b <;> rfl

end Binding

/-- Formats of name identifiers. -/
inductive NameIdFormat where
  /-- Left open. -/
  | unspecified
  /-- An e-mail address. -/
  | email
  /-- The name of an entity. -/
  | entity
  /-- A pseudonym that lasts. -/
  | persistent
  /-- A pseudonym for one session. -/
  | transient
deriving Repr, DecidableEq

namespace NameIdFormat

/-- Every format. -/
def all : List NameIdFormat := [unspecified, email, entity, persistent, transient]

/-- The format that holds where none is given. -/
def fallback : NameIdFormat := unspecified

/-- The URI. -/
def uri : NameIdFormat → String
  | unspecified => "urn:oasis:names:tc:SAML:1.1:nameid-format:unspecified"
  | email => "urn:oasis:names:tc:SAML:1.1:nameid-format:emailAddress"
  | entity => "urn:oasis:names:tc:SAML:2.0:nameid-format:entity"
  | persistent => "urn:oasis:names:tc:SAML:2.0:nameid-format:persistent"
  | transient => "urn:oasis:names:tc:SAML:2.0:nameid-format:transient"

/-- The format with a given URI. -/
def ofUri? (s : String) : Option NameIdFormat :=
  all.find? fun f => f.uri == s

end NameIdFormat

/-- The name format of attributes where none is given. -/
def unspecifiedNameFormat : String := "urn:oasis:names:tc:SAML:2.0:attrname-format:unspecified"

/-- The name format of attributes named by a URI. -/
def uriNameFormat : String := "urn:oasis:names:tc:SAML:2.0:attrname-format:uri"

/-- The name format of attributes named by a simple name. -/
def basicNameFormat : String := "urn:oasis:names:tc:SAML:2.0:attrname-format:basic"

/-- The method of confirming a subject by mere possession of the assertion. -/
def bearerMethod : String := "urn:oasis:names:tc:SAML:2.0:cm:bearer"

/-- The codes that may stand at the top of a status. -/
inductive StatusCode where
  /-- The request succeeded. -/
  | success
  /-- The requester is at fault. -/
  | requester
  /-- The responder is at fault. -/
  | responder
  /-- The version of the request is not supported. -/
  | versionMismatch
deriving Repr, DecidableEq

namespace StatusCode

/-- Every top-level code. -/
def all : List StatusCode := [success, requester, responder, versionMismatch]

/-- The URI. -/
def uri : StatusCode → String
  | success => "urn:oasis:names:tc:SAML:2.0:status:Success"
  | requester => "urn:oasis:names:tc:SAML:2.0:status:Requester"
  | responder => "urn:oasis:names:tc:SAML:2.0:status:Responder"
  | versionMismatch => "urn:oasis:names:tc:SAML:2.0:status:VersionMismatch"

/-- The URI names a top-level code. -/
def isTopLevel (s : String) : Bool :=
  all.any fun c => c.uri == s

end StatusCode

/-- Algorithms of detached signatures. -/
inductive SignatureAlgorithm where
  /-- RSA over SHA-1. -/
  | rsaSha1
  /-- RSA over SHA-256. -/
  | rsaSha256
  /-- RSA over SHA-384. -/
  | rsaSha384
  /-- RSA over SHA-512. -/
  | rsaSha512
  /-- ECDSA over SHA-256. -/
  | ecdsaSha256
  /-- ECDSA over SHA-384. -/
  | ecdsaSha384
  /-- ECDSA over SHA-512. -/
  | ecdsaSha512
deriving Repr, DecidableEq

namespace SignatureAlgorithm

/-- Every algorithm. -/
def all : List SignatureAlgorithm :=
  [rsaSha1, rsaSha256, rsaSha384, rsaSha512, ecdsaSha256, ecdsaSha384, ecdsaSha512]

/-- The URI. -/
def uri : SignatureAlgorithm → String
  | rsaSha1 => "http://www.w3.org/2000/09/xmldsig#rsa-sha1"
  | rsaSha256 => "http://www.w3.org/2001/04/xmldsig-more#rsa-sha256"
  | rsaSha384 => "http://www.w3.org/2001/04/xmldsig-more#rsa-sha384"
  | rsaSha512 => "http://www.w3.org/2001/04/xmldsig-more#rsa-sha512"
  | ecdsaSha256 => "http://www.w3.org/2001/04/xmldsig-more#ecdsa-sha256"
  | ecdsaSha384 => "http://www.w3.org/2001/04/xmldsig-more#ecdsa-sha384"
  | ecdsaSha512 => "http://www.w3.org/2001/04/xmldsig-more#ecdsa-sha512"

/-- The algorithm with a given URI. -/
def ofUri? (s : String) : Option SignatureAlgorithm :=
  all.find? fun a => a.uri == s

/-- The algorithm uses an RSA key. -/
def isRsa : SignatureAlgorithm → Bool
  | rsaSha1 => true
  | rsaSha256 => true
  | rsaSha384 => true
  | rsaSha512 => true
  | _ => false

/-- The algorithm uses a key on an elliptic curve. -/
def isEcdsa (a : SignatureAlgorithm) : Bool :=
  !a.isRsa

end SignatureAlgorithm

end Saml

end SamlConformance
