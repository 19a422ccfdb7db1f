import SamlConformance.Judge
import SamlConformance.Proofs.Coding.Base64
import SamlConformance.Proofs.Message.QuerySignature

/-!
# The Published Certificate

Metadata can name several keys, and each can hold several certificates or none. Reading it
makes two choices, one after the other: the first key that may be used for signing, and then
the first certificate in that key. A certificate that is chosen in this way is the first one
that is published. But the first choice is made without a look at the second. If the first
key for signing is named without a certificate, nothing is found, and certificates in later
keys do not count (`published_but_unread`).

What hangs on it is whether signatures of redirects are looked at. With a certificate every
message that arrives by redirect with a signature is put to the verifier; without one the
verifier is never asked, and nothing in the verdict tells the two apart.

## Main definitions

* `IdpMetadata.signingKeys`, `IdpMetadata.certificatesIn`: What the two choices are made from.
* `IdpMetadata.published`: All certificates that are published for signing.
* `IdpMetadata.ChecksWith`: Signatures of redirects are checked with a key.
* `IdpMetadata.ChecksNothing`: Signatures of redirects are not checked.

## Theorems

* `IdpMetadata.ofXml_eq_ok_iff`: What the metadata of a document is put together from.
* `IdpMetadata.checksWith_of_certificate`, `checksNothing_of_none`: What hangs on a certificate.
* `IdpMetadata.certificate_read`: Which certificate is read, and what follows.
-/

namespace SamlConformance

namespace Session

/-- The message does not depend on what came before it. -/
theorem decode_fst (s : Session) (j : Judge) (received : Received) :
    (s.decode j received).1 = Message.decode j.signatureCheck? received := by
  unfold decode
  cases Message.decode j.signatureCheck? received with
  | error e => rfl
  | ok m => rfl

end Session

namespace IdpMetadata

open Xml (Element)

/-- The keys that may be used for signing, in document order. -/
def signingKeys (idp : Element) : List Element :=
  (idp.childrenNamed Saml.metadataNs "KeyDescriptor").filter isSigningKey

/-- The certificates in a key, in document order. -/
def certificatesIn (key : Element) : List Element :=
  key.descendantsNamed Saml.signatureNs "X509Certificate"

/-- The certificates that a provider publishes for signing, in document order. -/
def published (idp : Element) : List Element :=
  (signingKeys idp).flatMap certificatesIn

/-- Decoding puts every redirect with a signature to the verifier, with this key. It finds
nothing exactly if there is no signature, or if the verifier says that it is good. -/
def ChecksWith (m : IdpMetadata) (key : List UInt8) : Prop :=
  ∀ (s : Session) (verifier : Verifier) (lenient : Bool) (status : Nat) (fields : Fields)
    (given : Bool) (message : Message),
    Message.decode none ⟨.redirect, status, fields, given⟩ = .ok message →
    ∃ finding payload,
      (s.decode ⟨m, some verifier, lenient⟩ ⟨.redirect, status, fields, given⟩).1 =
        .ok { message with findings := message.findings ++ Option.toList finding } ∧
      fields.get? message.kind.parameter.name = some payload ∧
      (finding = none ↔
        (fields.get? Saml.Parameter.signatureAlgorithm.name = none ∧
          fields.get? Saml.Parameter.signature.name = none) ∨
        ∃ rawAlgorithm rawSignature uri signature, QuerySignature.Verified ⟨verifier, key⟩ fields
          message.kind payload rawAlgorithm rawSignature uri signature)

/-- Decoding never asks the verifier: the outcome is the one without it. -/
def ChecksNothing (m : IdpMetadata) : Prop :=
  ∀ (s : Session) (verifier : Verifier) (lenient : Bool) (received : Received),
    (s.decode ⟨m, some verifier, lenient⟩ received).1 = Message.decode none received

theorem checksWith_of_certificate (m : IdpMetadata) (key : List UInt8)
    (h : m.certificate = some key) : m.ChecksWith key := by
  intro s verifier lenient status fields given message hdecode
  have hcheck : Judge.signatureCheck? ⟨m, some verifier, lenient⟩ = some ⟨verifier, key⟩ := by
    simp only [Judge.signatureCheck?, h]
  obtain ⟨kind, payload, bytes, found, xml, root, hsteps, rfl⟩ :=
    (Message.decode_eq_ok_iff none _ message).mp hdecode
  -- The payload that was decoded is the one that the signed text is made of.
  have hpayload := Received.get?_of_payload? _ kind payload hsteps.carried
  refine ⟨querySignatureFinding? fields kind (some ⟨verifier, key⟩), payload, ?_, hpayload,
    querySignatureFinding?_eq_none_iff ⟨verifier, key⟩ fields kind payload hpayload⟩
  rw [Session.decode_fst, hcheck, Message.decode_eq_map, hdecode]
  rfl

theorem checksNothing_of_none (m : IdpMetadata) (h : m.certificate = none) :
    m.ChecksNothing := by
  intro s verifier lenient received
  have hcheck : Judge.signatureCheck? ⟨m, some verifier, lenient⟩ = none := by
    simp only [Judge.signatureCheck?, h]
  rw [Session.decode_fst, hcheck]

/-- The first key for signing settles it, and in it the first certificate. -/
theorem signingCertificate_eq (idp : Element) :
    signingCertificate idp = match (signingKeys idp).head? with
      | none => .ok none
      | some key => match (certificatesIn key).head? with
        | none => .ok none
        | some c => match Base64.decode (Text.withoutBlanks c.text) with
          | .ok bytes => .ok (some bytes)
          | .error f =>
            .error (.metadata s!"signing certificate is not base64: {f.message}") := by
  rw [signingKeys, List.head?_filter]
  rfl

/-- Metadata is put together from the first entity that describes a provider. -/
theorem ofXml_eq_ok_iff (content : String) (m : IdpMetadata) :
    ofXml content = .ok m ↔
      ∃ root entity idp, Xml.parse content = .ok root ∧ provider? root = some (entity, idp) ∧
        entityId? entity = some m.entityId ∧ signingCertificate idp = .ok m.certificate ∧
        m.signOn = endpoints idp "SingleSignOnService" ∧
        m.logout = endpoints idp "SingleLogoutService" := by
  constructor
  · intro h
    unfold ofXml at h
    cases hparse : Xml.parse content with
    | error e => simp only [hparse, reduceCtorEq] at h
    | ok root =>
        cases hprovider : provider? root with
        | none => simp only [hparse, hprovider, reduceCtorEq] at h
        | some p =>
            obtain ⟨entity, idp⟩ := p
            cases hid : entityId? entity with
            | none => simp only [hparse, hprovider, hid, reduceCtorEq] at h
            | some id =>
                cases hcertificate : signingCertificate idp with
                | error e => simp only [hparse, hprovider, hid, hcertificate, reduceCtorEq] at h
                | ok certificate =>
                    simp only [hparse, hprovider, hid, hcertificate, Except.ok.injEq] at h
                    rw [← h]
                    exact ⟨root, entity, idp, rfl, hprovider, hid, hcertificate, rfl, rfl⟩
  · rintro ⟨root, entity, idp, hparse, hprovider, hid, hcertificate, hsignOn, hlogout⟩
    simp only [ofXml, hparse, hprovider, hid, hcertificate, ← hsignOn, ← hlogout]

/-- A text holds metadata of which something is true, if that is what reading it gives. -/
theorem exists_ofXml_eq_ok (content id : String) (certificate : Option (List UInt8))
    (q : Element → Prop)
    (h : ∃ root ∈ (Xml.parse content).toOption, ∃ p ∈ provider? root,
      entityId? p.1 = some id ∧ (signingCertificate p.2).toOption = some certificate ∧ q p.2) :
    ∃ root entity idp m, Xml.parse content = .ok root ∧ provider? root = some (entity, idp) ∧
      ofXml content = .ok m ∧ m.certificate = certificate ∧ q idp := by
  obtain ⟨root, hparse, ⟨entity, idp⟩, hprovider, hid, hread, hq⟩ :=
    Xml.exists_parse_eq_ok content _ h
  have hcertificate : signingCertificate idp = .ok certificate := by
    cases hresult : signingCertificate idp with
    | error e =>
        rw [hresult] at hread
        exact absurd hread.symm (Option.some_ne_none certificate)
    | ok found =>
        rw [hresult] at hread
        exact congrArg Except.ok (Option.some.inj hread)
  refine ⟨root, entity, idp, ⟨id, endpoints idp "SingleSignOnService",
    endpoints idp "SingleLogoutService", certificate⟩, hparse, hprovider, ?_, rfl, hq⟩
  exact (ofXml_eq_ok_iff content _).mpr
    ⟨root, entity, idp, hparse, hprovider, hid, hcertificate, rfl, rfl⟩

/-- The certificate of metadata is read from the first key for signing. If that key holds a
certificate, it is the first one that is published, the bytes are those whose base64 text it
is, and signatures of redirects are checked with it. If the key holds none, or if there is no
such key, then there is no certificate and signatures are not checked, whatever other keys
hold. -/
theorem certificate_read (content : String) (m : IdpMetadata) (h : ofXml content = .ok m) :
    ∃ root entity idp, Xml.parse content = .ok root ∧ provider? root = some (entity, idp) ∧
      (∀ key c, (signingKeys idp).head? = some key → (certificatesIn key).head? = some c →
        (published idp).head? = some c ∧
        ∃ bytes, m.certificate = some bytes ∧
          Base64.encode bytes = Text.withoutBlanks c.text ∧ m.ChecksWith bytes) ∧
      ((∀ key, (signingKeys idp).head? = some key → certificatesIn key = []) →
        m.certificate = none ∧ m.ChecksNothing) := by
  obtain ⟨root, entity, idp, hparse, hprovider, -, hread, -, -⟩ :=
    (ofXml_eq_ok_iff content m).mp h
  rw [signingCertificate_eq] at hread
  refine ⟨root, entity, idp, hparse, hprovider, ?_, ?_⟩
  · intro key c hkey hc
    have hfirst : (published idp).head? = some c := by
      obtain ⟨keys, hkeys⟩ := List.head?_eq_some_iff.mp hkey
      rw [published, hkeys, List.flatMap_cons, List.head?_append, hc]
      rfl
    simp only [hkey, hc] at hread
    cases hbytes : Base64.decode (Text.withoutBlanks c.text) with
    | error f => simp only [hbytes, reduceCtorEq] at hread
    | ok bytes =>
        simp only [hbytes, Except.ok.injEq] at hread
        exact ⟨hfirst, bytes, hread.symm, ((Base64.decode_eq_ok_iff _ bytes).mp hbytes).symm,
          checksWith_of_certificate m bytes hread.symm⟩
  · intro hnone
    have hcertificate : m.certificate = none := by
      cases hkey : (signingKeys idp).head? with
      | none =>
          simp only [hkey, Except.ok.injEq] at hread
          exact hread.symm
      | some key =>
          simp only [hkey, hnone key hkey, List.head?_nil, Except.ok.injEq] at hread
          exact hread.symm
    exact ⟨hcertificate, checksNothing_of_none m hcertificate⟩

/-- Metadata in which a key for encryption comes first, and no key says that it is for
signing. -/
def encryptionFirst : String :=
  "<EntityDescriptor xmlns=\"urn:oasis:names:tc:SAML:2.0:metadata\" entityID=\"i\"><IDPSSODescriptor><KeyDescriptor use=\"encryption\"/><KeyDescriptor><X509Certificate xmlns=\"http://www.w3.org/2000/09/xmldsig#\">a2 V5</X509Certificate></KeyDescriptor></IDPSSODescriptor></EntityDescriptor>"

/-- The second key is chosen, and redirects are checked with it. -/
theorem certificate_read_encryptionFirst :
    ∃ m, ofXml encryptionFirst = .ok m ∧ m.certificate = some [107, 101, 121] ∧
      m.ChecksWith [107, 101, 121] := by
  obtain ⟨-, -, -, m, -, -, hm, hcertificate, -⟩ :=
    exists_ofXml_eq_ok encryptionFirst "i" (some [107, 101, 121]) (fun _ => True) (by
      rw [encryptionFirst, Xml.parse_ofList]
      decide +kernel)
  obtain ⟨_, _, idp, -, -, hread, hunread⟩ := certificate_read encryptionFirst m hm
  -- There is a certificate, so the first key for signing holds one.
  obtain ⟨key, hkey, hne⟩ : ∃ key, (signingKeys idp).head? = some key ∧
      certificatesIn key ≠ [] := by
    by_contra hempty
    push Not at hempty
    rw [(hunread hempty).1] at hcertificate
    exact absurd hcertificate (by simp only [reduceCtorEq, not_false_eq_true])
  obtain ⟨c, hc⟩ := Option.isSome_iff_exists.mp (List.isSome_head?.mpr hne)
  obtain ⟨-, bytes, hbytes, -, hchecks⟩ := hread key c hkey hc
  rw [hcertificate, Option.some.injEq] at hbytes
  exact ⟨m, hm, hcertificate, hbytes ▸ hchecks⟩

/-- Metadata whose first key for signing is only named, and whose second one is published
with its certificate. -/
def namedKey : String :=
  "<EntityDescriptor xmlns=\"urn:oasis:names:tc:SAML:2.0:metadata\" entityID=\"i\"><IDPSSODescriptor><KeyDescriptor use=\"signing\"><KeyInfo xmlns=\"http://www.w3.org/2000/09/xmldsig#\"><KeyName>k</KeyName></KeyInfo></KeyDescriptor><KeyDescriptor use=\"signing\"><KeyInfo xmlns=\"http://www.w3.org/2000/09/xmldsig#\"><X509Data><X509Certificate>a2V5</X509Certificate></X509Data></KeyInfo></KeyDescriptor></IDPSSODescriptor></EntityDescriptor>"

/-- There is a certificate for signing, but none is read and no signature is checked. -/
theorem published_but_unread :
    ∃ root entity idp m, Xml.parse namedKey = .ok root ∧ provider? root = some (entity, idp) ∧
      ofXml namedKey = .ok m ∧ (published idp).map Element.text = ["a2V5"] ∧
      m.certificate = none ∧ m.ChecksNothing := by
  obtain ⟨root, entity, idp, m, hparse, hprovider, hm, hcertificate, hpublished⟩ :=
    exists_ofXml_eq_ok namedKey "i" none (fun idp => (published idp).map Element.text = ["a2V5"])
      (by
        rw [namedKey, Xml.parse_ofList]
        decide +kernel)
  exact ⟨root, entity, idp, m, hparse, hprovider, hm, hpublished, hcertificate,
    checksNothing_of_none m hcertificate⟩

end IdpMetadata

end SamlConformance
