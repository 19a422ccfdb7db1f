import SamlConformance.Spec.Section

/-!
# Clauses

The normative statements that messages are judged by. A clause is identified
by the document and paragraph it stands in, with a letter where one paragraph
makes several statements: `Core.3.4.1.4_c`.

The place of a clause is the primary datum; its identifier is the place in
writing, and the section it counts against is the beginning of its place.

## Main definitions

* `Clause`: The statements, in report order.
* `Clause.place`: Document, paragraph and letter.
* `Clause.id`: The identifier.
* `Clause.toSection`: The section a breach counts against.
* `Clause.wording`: What the clause demands.
-/

namespace SamlConformance

/-- A normative statement of the specification, named by its identifier. -/
inductive Clause where
  | general_a
  | schema
  | core_1_3_1_a
  | core_1_3_2_a
  | core_1_3_3_a
  | core_1_3_4_a
  | core_2_3_3_a
  | core_2_3_3_b
  | core_2_3_3_c
  | core_2_3_3_d
  | core_2_3_3_e
  | core_2_5_1_b
  | core_2_5_1_c
  | core_2_5_1_2_a
  | core_2_7_2_a
  | core_2_7_3_a
  | core_3_2_2_a
  | core_3_2_2_b
  | core_3_2_2_c
  | core_3_2_2_d
  | core_3_2_2_e
  | core_3_2_2_2_a
  | core_3_3_2_3_a
  | core_3_4_a
  | core_3_4_1_4_a
  | core_3_4_1_4_c
  | core_3_4_1_4_d
  | core_3_4_1_4_e
  | core_3_7_1_a
  | core_3_7_1_b
  | core_4_1_2_a
  | core_4_2_a
  | core_5_4_2_a
  | core_8_2_2_a
  | core_8_2_3_a
  | core_8_3_2_a
  | core_8_3_6_a
  | core_8_3_6_b
  | core_8_3_7_a
  | core_8_3_7_b
  | core_8_3_8_a
  | bindings_3_1_2_1_a
  | bindings_3_4_3_a
  | bindings_3_4_3_b
  | bindings_3_4_4_a
  | bindings_3_4_4_b
  | bindings_3_4_4_1_a
  | bindings_3_4_4_1_b
  | bindings_3_4_4_1_c
  | bindings_3_4_4_1_d
  | bindings_3_4_4_1_e
  | bindings_3_4_4_1_f
  | bindings_3_4_4_1_g
  | bindings_3_4_5_2_a
  | bindings_3_4_6_a
  | bindings_3_5_3_a
  | bindings_3_5_3_b
  | bindings_3_5_4_a
  | bindings_3_5_4_b
  | bindings_3_5_5_2_a
  | bindings_3_5_6_a
  | profiles_4_1_2_a
  | profiles_4_1_4_2_a
  | profiles_4_1_4_2_b
  | profiles_4_1_4_2_c
  | profiles_4_1_4_2_e
  | profiles_4_1_4_2_f
  | profiles_4_1_4_2_g
  | profiles_4_1_4_2_h
  | profiles_4_1_4_2_i
  | profiles_4_1_4_2_j
  | profiles_4_1_4_5_a
  | profiles_4_4_4_1_a
  | profiles_4_4_4_1_b
  | profiles_4_4_4_2_a
  | profiles_4_4_4_2_b
deriving Repr, DecidableEq

/-- Where a clause stands. -/
structure Clause.Place where
  /-- The document. -/
  document : Document
  /-- The numbers of the paragraph. -/
  paragraph : List UInt16
  /-- Tells apart the statements of one paragraph. -/
  letter : Option Char
deriving Repr, DecidableEq

namespace Clause

/-- Every clause, in report order. -/
def all : List Clause :=
  [ .general_a, .schema, .core_1_3_1_a, .core_1_3_2_a, .core_1_3_3_a, .core_1_3_4_a,
    .core_2_3_3_a, .core_2_3_3_b, .core_2_3_3_c, .core_2_3_3_d, .core_2_3_3_e, .core_2_5_1_b,
    .core_2_5_1_c, .core_2_5_1_2_a, .core_2_7_2_a, .core_2_7_3_a, .core_3_2_2_a, .core_3_2_2_b,
    .core_3_2_2_c, .core_3_2_2_d, .core_3_2_2_e, .core_3_2_2_2_a, .core_3_3_2_3_a, .core_3_4_a,
    .core_3_4_1_4_a, .core_3_4_1_4_c, .core_3_4_1_4_d, .core_3_4_1_4_e, .core_3_7_1_a,
    .core_3_7_1_b, .core_4_1_2_a, .core_4_2_a, .core_5_4_2_a, .core_8_2_2_a, .core_8_2_3_a,
    .core_8_3_2_a, .core_8_3_6_a, .core_8_3_6_b, .core_8_3_7_a, .core_8_3_7_b, .core_8_3_8_a,
    .bindings_3_1_2_1_a, .bindings_3_4_3_a, .bindings_3_4_3_b, .bindings_3_4_4_a,
    .bindings_3_4_4_b, .bindings_3_4_4_1_a, .bindings_3_4_4_1_b, .bindings_3_4_4_1_c,
    .bindings_3_4_4_1_d, .bindings_3_4_4_1_e, .bindings_3_4_4_1_f, .bindings_3_4_4_1_g,
    .bindings_3_4_5_2_a, .bindings_3_4_6_a, .bindings_3_5_3_a, .bindings_3_5_3_b,
    .bindings_3_5_4_a, .bindings_3_5_4_b, .bindings_3_5_5_2_a, .bindings_3_5_6_a,
    .profiles_4_1_2_a, .profiles_4_1_4_2_a, .profiles_4_1_4_2_b, .profiles_4_1_4_2_c,
    .profiles_4_1_4_2_e, .profiles_4_1_4_2_f, .profiles_4_1_4_2_g, .profiles_4_1_4_2_h,
    .profiles_4_1_4_2_i, .profiles_4_1_4_2_j, .profiles_4_1_4_5_a, .profiles_4_4_4_1_a,
    .profiles_4_4_4_1_b, .profiles_4_4_4_2_a, .profiles_4_4_4_2_b ]

/-- The place of each clause. -/
def place : Clause → Place
  | .general_a => ⟨.general, [], some 'a'⟩
  | .schema => ⟨.schema, [], none⟩
  | .core_1_3_1_a => ⟨.core, [1, 3, 1], some 'a'⟩
  | .core_1_3_2_a => ⟨.core, [1, 3, 2], some 'a'⟩
  | .core_1_3_3_a => ⟨.core, [1, 3, 3], some 'a'⟩
  | .core_1_3_4_a => ⟨.core, [1, 3, 4], some 'a'⟩
  | .core_2_3_3_a => ⟨.core, [2, 3, 3], some 'a'⟩
  | .core_2_3_3_b => ⟨.core, [2, 3, 3], some 'b'⟩
  | .core_2_3_3_c => ⟨.core, [2, 3, 3], some 'c'⟩
  | .core_2_3_3_d => ⟨.core, [2, 3, 3], some 'd'⟩
  | .core_2_3_3_e => ⟨.core, [2, 3, 3], some 'e'⟩
  | .core_2_5_1_b => ⟨.core, [2, 5, 1], some 'b'⟩
  | .core_2_5_1_c => ⟨.core, [2, 5, 1], some 'c'⟩
  | .core_2_5_1_2_a => ⟨.core, [2, 5, 1, 2], some 'a'⟩
  | .core_2_7_2_a => ⟨.core, [2, 7, 2], some 'a'⟩
  | .core_2_7_3_a => ⟨.core, [2, 7, 3], some 'a'⟩
  | .core_3_2_2_a => ⟨.core, [3, 2, 2], some 'a'⟩
  | .core_3_2_2_b => ⟨.core, [3, 2, 2], some 'b'⟩
  | .core_3_2_2_c => ⟨.core, [3, 2, 2], some 'c'⟩
  | .core_3_2_2_d => ⟨.core, [3, 2, 2], some 'd'⟩
  | .core_3_2_2_e => ⟨.core, [3, 2, 2], some 'e'⟩
  | .core_3_2_2_2_a => ⟨.core, [3, 2, 2, 2], some 'a'⟩
  | .core_3_3_2_3_a => ⟨.core, [3, 3, 2, 3], some 'a'⟩
  | .core_3_4_a => ⟨.core, [3, 4], some 'a'⟩
  | .core_3_4_1_4_a => ⟨.core, [3, 4, 1, 4], some 'a'⟩
  | .core_3_4_1_4_c => ⟨.core, [3, 4, 1, 4], some 'c'⟩
  | .core_3_4_1_4_d => ⟨.core, [3, 4, 1, 4], some 'd'⟩
  | .core_3_4_1_4_e => ⟨.core, [3, 4, 1, 4], some 'e'⟩
  | .core_3_7_1_a => ⟨.core, [3, 7, 1], some 'a'⟩
  | .core_3_7_1_b => ⟨.core, [3, 7, 1], some 'b'⟩
  | .core_4_1_2_a => ⟨.core, [4, 1, 2], some 'a'⟩
  | .core_4_2_a => ⟨.core, [4, 2], some 'a'⟩
  | .core_5_4_2_a => ⟨.core, [5, 4, 2], some 'a'⟩
  | .core_8_2_2_a => ⟨.core, [8, 2, 2], some 'a'⟩
  | .core_8_2_3_a => ⟨.core, [8, 2, 3], some 'a'⟩
  | .core_8_3_2_a => ⟨.core, [8, 3, 2], some 'a'⟩
  | .core_8_3_6_a => ⟨.core, [8, 3, 6], some 'a'⟩
  | .core_8_3_6_b => ⟨.core, [8, 3, 6], some 'b'⟩
  | .core_8_3_7_a => ⟨.core, [8, 3, 7], some 'a'⟩
  | .core_8_3_7_b => ⟨.core, [8, 3, 7], some 'b'⟩
  | .core_8_3_8_a => ⟨.core, [8, 3, 8], some 'a'⟩
  | .bindings_3_1_2_1_a => ⟨.bindings, [3, 1, 2, 1], some 'a'⟩
  | .bindings_3_4_3_a => ⟨.bindings, [3, 4, 3], some 'a'⟩
  | .bindings_3_4_3_b => ⟨.bindings, [3, 4, 3], some 'b'⟩
  | .bindings_3_4_4_a => ⟨.bindings, [3, 4, 4], some 'a'⟩
  | .bindings_3_4_4_b => ⟨.bindings, [3, 4, 4], some 'b'⟩
  | .bindings_3_4_4_1_a => ⟨.bindings, [3, 4, 4, 1], some 'a'⟩
  | .bindings_3_4_4_1_b => ⟨.bindings, [3, 4, 4, 1], some 'b'⟩
  | .bindings_3_4_4_1_c => ⟨.bindings, [3, 4, 4, 1], some 'c'⟩
  | .bindings_3_4_4_1_d => ⟨.bindings, [3, 4, 4, 1], some 'd'⟩
  | .bindings_3_4_4_1_e => ⟨.bindings, [3, 4, 4, 1], some 'e'⟩
  | .bindings_3_4_4_1_f => ⟨.bindings, [3, 4, 4, 1], some 'f'⟩
  | .bindings_3_4_4_1_g => ⟨.bindings, [3, 4, 4, 1], some 'g'⟩
  | .bindings_3_4_5_2_a => ⟨.bindings, [3, 4, 5, 2], some 'a'⟩
  | .bindings_3_4_6_a => ⟨.bindings, [3, 4, 6], some 'a'⟩
  | .bindings_3_5_3_a => ⟨.bindings, [3, 5, 3], some 'a'⟩
  | .bindings_3_5_3_b => ⟨.bindings, [3, 5, 3], some 'b'⟩
  | .bindings_3_5_4_a => ⟨.bindings, [3, 5, 4], some 'a'⟩
  | .bindings_3_5_4_b => ⟨.bindings, [3, 5, 4], some 'b'⟩
  | .bindings_3_5_5_2_a => ⟨.bindings, [3, 5, 5, 2], some 'a'⟩
  | .bindings_3_5_6_a => ⟨.bindings, [3, 5, 6], some 'a'⟩
  | .profiles_4_1_2_a => ⟨.profiles, [4, 1, 2], some 'a'⟩
  | .profiles_4_1_4_2_a => ⟨.profiles, [4, 1, 4, 2], some 'a'⟩
  | .profiles_4_1_4_2_b => ⟨.profiles, [4, 1, 4, 2], some 'b'⟩
  | .profiles_4_1_4_2_c => ⟨.profiles, [4, 1, 4, 2], some 'c'⟩
  | .profiles_4_1_4_2_e => ⟨.profiles, [4, 1, 4, 2], some 'e'⟩
  | .profiles_4_1_4_2_f => ⟨.profiles, [4, 1, 4, 2], some 'f'⟩
  | .profiles_4_1_4_2_g => ⟨.profiles, [4, 1, 4, 2], some 'g'⟩
  | .profiles_4_1_4_2_h => ⟨.profiles, [4, 1, 4, 2], some 'h'⟩
  | .profiles_4_1_4_2_i => ⟨.profiles, [4, 1, 4, 2], some 'i'⟩
  | .profiles_4_1_4_2_j => ⟨.profiles, [4, 1, 4, 2], some 'j'⟩
  | .profiles_4_1_4_5_a => ⟨.profiles, [4, 1, 4, 5], some 'a'⟩
  | .profiles_4_4_4_1_a => ⟨.profiles, [4, 4, 4, 1], some 'a'⟩
  | .profiles_4_4_4_1_b => ⟨.profiles, [4, 4, 4, 1], some 'b'⟩
  | .profiles_4_4_4_2_a => ⟨.profiles, [4, 4, 4, 2], some 'a'⟩
  | .profiles_4_4_4_2_b => ⟨.profiles, [4, 4, 4, 2], some 'b'⟩

/-- The identifier: the dotted place, then the letter after a low line. -/
def id (c : Clause) : String :=
  let p := c.place
  let dotted := Section.name ⟨p.document, p.paragraph⟩
  match p.letter with
  | some l => (dotted.push '_').push l
  | none => dotted

/-- The clause with a given identifier. -/
def ofId? (s : String) : Option Clause :=
  all.find? fun c => c.id == s

/-- The section a breach of the clause counts against. -/
def toSection (c : Clause) : Section :=
  ⟨c.place.document, c.place.paragraph.take Section.depth⟩

/-- What the clause demands. -/
def wording : Clause → String
  | .general_a =>
    "Signatures MUST be valid under the signing key published in the IdP metadata."
  | .schema =>
    "The message MUST be a well-formed document conforming to the SAML 2.0 schemas."
  | .core_1_3_1_a =>
    "String values MUST consist of at least one non-whitespace character."
  | .core_1_3_2_a =>
    "URI reference values MUST be absolute and contain at least one non-whitespace character."
  | .core_1_3_3_a =>
    "Time values MUST be expressed in UTC form, with no time zone component other than Z."
  | .core_1_3_4_a =>
    "Identifier values MUST be unique within the scope of the message."
  | .core_2_3_3_a =>
    "The Version attribute of an <Assertion> MUST be \"2.0\"."
  | .core_2_3_3_b =>
    "An <Assertion> MUST carry an ID attribute."
  | .core_2_3_3_c =>
    "An <Assertion> MUST carry an IssueInstant attribute in UTC."
  | .core_2_3_3_d =>
    "An <Assertion> MUST contain exactly one <Issuer> element."
  | .core_2_3_3_e =>
    "An <Assertion> with no statements MUST contain a <Subject> element."
  | .core_2_5_1_b =>
    "A <Conditions> element MUST NOT contain more than one <OneTimeUse> element."
  | .core_2_5_1_c =>
    "A <Conditions> element MUST NOT contain more than one <ProxyRestriction> element."
  | .core_2_5_1_2_a =>
    "When both are present, NotBefore MUST be earlier than NotOnOrAfter."
  | .core_2_7_2_a =>
    "An assertion containing an <AuthnStatement> MUST contain a <Subject> element."
  | .core_2_7_3_a =>
    "An assertion containing an <AttributeStatement> MUST contain a <Subject> element."
  | .core_3_2_2_a =>
    "A response MUST carry an ID attribute."
  | .core_3_2_2_b =>
    "InResponseTo MUST equal the ID of the request the response answers."
  | .core_3_2_2_c =>
    "The Version attribute of a response MUST be \"2.0\"."
  | .core_3_2_2_d =>
    "The IssueInstant of a response MUST be expressed in UTC."
  | .core_3_2_2_e =>
    "When present, Destination MUST be the URI the response was sent to."
  | .core_3_2_2_2_a =>
    "The first-level <StatusCode> MUST be one of the top-level status codes."
  | .core_3_3_2_3_a =>
    "An <AttributeQuery> MUST NOT contain two <Attribute> elements with the same Name and " ++
      "NameFormat."
  | .core_3_4_a =>
    "A successful authentication response MUST contain at least one <AuthnStatement>."
  | .core_3_4_1_4_a =>
    "The response to an <AuthnRequest> MUST be a <Response> containing one or more assertions."
  | .core_3_4_1_4_c =>
    "Every assertion returned for an <AuthnRequest> MUST contain a <Subject>."
  | .core_3_4_1_4_d =>
    "At least one returned assertion MUST contain an <AuthnStatement>."
  | .core_3_4_1_4_e =>
    "Returned assertions MUST be restricted to the requesting service provider as an <Audience>."
  | .core_3_7_1_a =>
    "The Reason attribute of a <LogoutRequest> MUST be a URI reference."
  | .core_3_7_1_b =>
    "A <LogoutRequest> MUST identify the principal with a <BaseID>, <NameID> or <EncryptedID>."
  | .core_4_1_2_a =>
    "The SAML major and minor version MUST be 2.0."
  | .core_4_2_a =>
    "SAML elements MUST use the SAML 2.0 namespace names."
  | .core_5_4_2_a =>
    "A signature MUST contain exactly one <Reference> whose URI is \"#\" followed by the signed " ++
      "element's ID."
  | .core_8_2_2_a =>
    "An attribute with the uri NameFormat MUST have a Name that is a URI reference."
  | .core_8_2_3_a =>
    "An attribute with the basic NameFormat MUST have a Name that is a valid xs:Name."
  | .core_8_3_2_a =>
    "An emailAddress identifier MUST be in the form local-part@domain."
  | .core_8_3_6_a =>
    "An entity identifier MUST NOT carry NameQualifier, SPNameQualifier or SPProvidedID."
  | .core_8_3_6_b =>
    "An entity identifier MUST NOT exceed 1024 characters."
  | .core_8_3_7_a =>
    "A persistent identifier MUST NOT exceed 256 characters."
  | .core_8_3_7_b =>
    "The NameQualifier of a persistent identifier MUST be the issuing IdP's entity ID."
  | .core_8_3_8_a =>
    "A transient identifier MUST NOT exceed 256 characters."
  | .bindings_3_1_2_1_a =>
    "The signing key MUST be usable for the declared signature algorithm."
  | .bindings_3_4_3_a =>
    "RelayState MUST NOT exceed 80 bytes."
  | .bindings_3_4_3_b =>
    "The responder MUST return the exact RelayState it received with the request."
  | .bindings_3_4_4_a =>
    "SAMLEncoding, when present, MUST be a URI identifying the encoding."
  | .bindings_3_4_4_b =>
    "The message MUST be carried in a SAMLRequest or SAMLResponse query parameter."
  | .bindings_3_4_4_1_a =>
    "The DEFLATE encoding MUST NOT include an enveloped signature in the message."
  | .bindings_3_4_4_1_b =>
    "The message MUST be compressed with raw DEFLATE and contain no line feeds or whitespace."
  | .bindings_3_4_4_1_c =>
    "The compressed message MUST be base64 encoded."
  | .bindings_3_4_4_1_d =>
    "RelayState MUST be URL-encoded in the query string."
  | .bindings_3_4_4_1_e =>
    "A signed message MUST carry a SigAlg parameter naming a supported algorithm URI."
  | .bindings_3_4_4_1_f =>
    "The Signature parameter MUST verify over the SAMLResponse, RelayState and SigAlg parameters."
  | .bindings_3_4_4_1_g =>
    "A signed message MUST carry the base64 signature value in a Signature parameter."
  | .bindings_3_4_5_2_a =>
    "A signed message MUST carry a Destination equal to the URL it was sent to."
  | .bindings_3_4_6_a =>
    "The HTTP response MUST use status code 302 or 303."
  | .bindings_3_5_3_a =>
    "RelayState MUST NOT exceed 80 bytes."
  | .bindings_3_5_3_b =>
    "The responder MUST return the exact RelayState it received with the request."
  | .bindings_3_5_4_a =>
    "The form control value MUST be the base64 encoding of the message."
  | .bindings_3_5_4_b =>
    "The message MUST be carried in a SAMLRequest or SAMLResponse form control."
  | .bindings_3_5_5_2_a =>
    "A signed message MUST carry a Destination equal to the URL it was sent to."
  | .bindings_3_5_6_a =>
    "The HTTP response MUST NOT carry an error status code."
  | .profiles_4_1_2_a =>
    "The IdP MUST NOT use the HTTP-Redirect binding to deliver the <Response>."
  | .profiles_4_1_4_2_a =>
    "A signed <Response> MUST contain exactly one <Issuer> equal to the IdP entity ID, in " ++
      "entity format if a Format is given."
  | .profiles_4_1_4_2_b =>
    "A successful <Response> MUST contain at least one <Assertion>."
  | .profiles_4_1_4_2_c =>
    "Every assertion MUST contain an <Issuer> equal to the IdP entity ID, in entity format if a " ++
      "Format is given."
  | .profiles_4_1_4_2_e =>
    "At least one assertion MUST contain a bearer <SubjectConfirmation>."
  | .profiles_4_1_4_2_f =>
    "A bearer confirmation MUST carry Recipient, NotOnOrAfter and InResponseTo, and no NotBefore."
  | .profiles_4_1_4_2_g =>
    "At least one bearer assertion MUST contain an <AuthnStatement>."
  | .profiles_4_1_4_2_h =>
    "When the IdP supports single logout, the <AuthnStatement> MUST carry a SessionIndex."
  | .profiles_4_1_4_2_i =>
    "Each bearer assertion MUST contain an <AudienceRestriction> naming the service provider."
  | .profiles_4_1_4_2_j =>
    "An error <Response> MUST NOT contain any assertion."
  | .profiles_4_1_4_5_a =>
    "Over the HTTP-POST binding the <Response> or its assertions MUST be signed."
  | .profiles_4_4_4_1_a =>
    "A <LogoutRequest> MUST contain an <Issuer> equal to the IdP entity ID, in entity format " ++
      "if a Format is given."
  | .profiles_4_4_4_1_b =>
    "A <LogoutRequest> MUST be signed."
  | .profiles_4_4_4_2_a =>
    "A <LogoutResponse> MUST contain an <Issuer> equal to the IdP entity ID, in entity format " ++
      "if a Format is given."
  | .profiles_4_4_4_2_b =>
    "A <LogoutResponse> MUST be signed."

/-- The identifier followed by the demand. -/
def reference (c : Clause) : String :=
  c.id ++ ": " ++ c.wording

theorem mem_all (c : Clause) : c ∈ all := by
  cases c <;> decide

end Clause

end SamlConformance
