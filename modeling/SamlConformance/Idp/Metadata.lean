import SamlConformance.Coding.Base64
import SamlConformance.EnvironmentError
import SamlConformance.Saml.Vocabulary
import SamlConformance.Text.Blank
import SamlConformance.Xml.Document

/-!
# Metadata of the Provider

What the rules need to know of the provider under test: its name, where it takes
requests, whether it supports single logout, and the certificate it signs with.
All of it can be read from a metadata document.

## Main definitions

* `IdpMetadata`: The four facts.
* `IdpMetadata.ofXml`: Reads them from a document.
-/

namespace SamlConformance

/-- An address at which messages of a binding are taken. -/
structure Endpoint where
  /-- The binding. -/
  binding : Saml.Binding
  /-- The address. -/
  location : String
deriving Repr, DecidableEq

/-- What is known of the provider under test. -/
structure IdpMetadata where
  /-- Its entity identifier. -/
  entityId : String
  /-- Where it takes requests for sign-on. -/
  signOn : List Endpoint := []
  /-- Where it takes requests for logout. -/
  logout : List Endpoint := []
  /-- The certificate it signs with. -/
  certificate : Option (List UInt8) := none
deriving Repr, DecidableEq

namespace IdpMetadata

/-- The first address for a binding. -/
def locationIn (endpoints : List Endpoint) (b : Saml.Binding) : Option String :=
  (endpoints.find? fun e => e.binding == b).map Endpoint.location

/-- The address for sign-on requests. -/
def signOnLocation? (m : IdpMetadata) (b : Saml.Binding) : Option String :=
  locationIn m.signOn b

/-- The address for logout requests. -/
def logoutLocation? (m : IdpMetadata) (b : Saml.Binding) : Option String :=
  locationIn m.logout b

/-- The provider takes logout requests on some binding. -/
def supportsLogout (m : IdpMetadata) : Bool :=
  !m.logout.isEmpty

/-- The endpoints of a service on the bindings known here. -/
def endpoints (idp : Xml.Element) (service : String) : List Endpoint :=
  (idp.childrenNamed Saml.metadataNs service).filterMap fun e => do
    let binding ← Saml.Binding.ofUri? (← e.attribute? "Binding")
    return ⟨binding, ← e.attribute? "Location"⟩

/-- A key that may be used for signing. -/
def isSigningKey (key : Xml.Element) : Bool :=
  match key.attribute? "use" with
  | none => true
  | some use => use == "signing"

/-- The certificate of the first key that may be used for signing. -/
def signingCertificate (idp : Xml.Element) : Except ProviderError (Option (List UInt8)) :=
  match (idp.childrenNamed Saml.metadataNs "KeyDescriptor").find? isSigningKey with
  | none => .ok none
  | some key =>
    match (key.descendantsNamed Saml.signatureNs "X509Certificate").head? with
    | none => .ok none
    | some certificate =>
      match Base64.decode (Text.withoutBlanks certificate.text) with
      | .ok bytes => .ok (some bytes)
      | .error f => .error (.metadata s!"signing certificate is not base64: {f.message}")

/-- The first entity in a document that describes a provider, with that
description. -/
def provider? (root : Xml.Element) : Option (Xml.Element × Xml.Element) :=
  (root.self.filter fun e => e.is Saml.metadataNs "EntityDescriptor").findSome? fun e =>
    (e.child? Saml.metadataNs "IDPSSODescriptor").map fun idp => (e, idp)

/-- The identifier of an entity; a blank one counts as none. -/
def entityId? (entity : Xml.Element) : Option String :=
  (entity.attribute? "entityID").filter fun id => !Text.allBlank id

/-- Reads a metadata document, which may describe several entities. -/
def ofXml (content : String) : Except ProviderError IdpMetadata :=
  match Xml.parse content with
  | .error e => .error (.metadata e.message)
  | .ok root =>
    match provider? root with
    | none => .error (.metadata "no EntityDescriptor with an IDPSSODescriptor")
    | some (entity, idp) =>
      match entityId? entity with
      | none => .error (.metadata "EntityDescriptor has no entityID")
      | some id =>
        match signingCertificate idp with
        | .error e => .error e
        | .ok certificate =>
          .ok ⟨id, endpoints idp "SingleSignOnService", endpoints idp "SingleLogoutService",
            certificate⟩

end IdpMetadata

end SamlConformance
