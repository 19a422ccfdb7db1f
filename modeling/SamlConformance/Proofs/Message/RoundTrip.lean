import SamlConformance.Proofs.Coding.Base64
import SamlConformance.Proofs.Coding.Percent
import SamlConformance.Proofs.Deflate.Store
import SamlConformance.Proofs.Message.Decoding
import SamlConformance.Proofs.Message.Fields

/-!
# From Message to Query and Back

A redirect that was built from a message is decoded to this message. On its way a
message is written as bytes, compressed, written in base64, escaped and put into a
query beside the relay state, and on its way back each of these layers is taken off
again. Most layers have characters that mean something to them: the layers fit
because escaping comes last and leaves none of the characters that a query is cut
at, nor the plus sign, which base64 does produce.

The way of compressing does not matter, as long as what it makes can be read again.
In particular it never makes an empty stream, since there is nothing to be read in
one, and so a payload is never blank, not even that of an empty message.

## Main definitions

* `Redirect.parametersWith`: The parameters of the query that carries a message.
* `Redirect.receivedWith`: A response that carries it.
* `Redirect.shortStream`: A way of compressing that makes use of codes.

## Theorems

* `ofQuery_encodeWith`: The query has these parameters and no others.
* `decode_of_unescaped`: A payload is decoded to the bytes its stream holds.
* `decode_receivedWith`: What a response with such a query is decoded to.
* `query_carries_message`: All layers together.
-/

namespace SamlConformance

namespace Redirect

variable (deflate : List UInt8 → List UInt8) (xml : String) (kind : MessageKind)
  (relayState : Option String)

/-- The payload that carries a message. -/
def payloadWith : String :=
  Percent.encode (Base64.encode (deflate (Utf8.encode xml)))

/-- The parameters of the query that carries a message. -/
def parametersWith : Fields :=
  (kind.parameter.name, payloadWith deflate xml) ::
    (relayState.map fun rs => (Saml.Parameter.relayState.name, Percent.encode rs)).toList

/-- Escaped values do not end a parameter. -/
theorem separable_encode (p : Saml.Parameter) (s : String) :
    Fields.Separable (p.name, Percent.encode s) := by
  refine Fields.separable_parameter p (Percent.encode s) ?_
  intro h
  exact absurd (Percent.mem_encode s '&' h) (by decide)

/-- The query is made of its parameters. -/
theorem toList_encodeWith :
    (encodeWith deflate xml kind relayState).toList =
      Fields.join (parametersWith deflate xml kind relayState) := by
  -- Both sides are the same characters in the same order, bracketed differently.
  have hequals : "=".toList = ['='] := rfl
  have hampersand : "&".toList = ['&'] := rfl
  cases relayState with
  | none =>
      simp only [encodeWith, parametersWith, payloadWith, Fields.join, Fields.segment,
        Option.map_none, Option.toList_none, List.map_cons, List.map_nil,
        List.intercalate_singleton, String.toList_append, hequals, List.append_assoc,
        List.singleton_append]
  | some rs =>
      simp only [encodeWith, parametersWith, payloadWith, Fields.join, Fields.segment,
        Option.map_some, Option.toList_some, List.map_cons, List.map_nil,
        List.intercalate_cons_cons, List.intercalate_singleton, String.toList_append, hequals,
        hampersand, List.append_assoc, List.cons_append, List.nil_append]

/-- The query has these parameters, in this order, and no others. -/
theorem ofQuery_encodeWith :
    Fields.ofQuery (encodeWith deflate xml kind relayState) =
      parametersWith deflate xml kind relayState := by
  rw [Fields.ofQuery, toList_encodeWith]
  refine Fields.ofQueryChars_join _ ?_
  intro field hfield
  rcases List.mem_cons.mp hfield with rfl | hfield
  · exact separable_encode kind.parameter _
  · obtain ⟨rs, -, rfl⟩ := Option.map_eq_some_iff.mp (Option.mem_toList.mp hfield)
    exact separable_encode .relayState rs

/-- Which parameters the query has. -/
theorem get?_parametersWith (p : Saml.Parameter) :
    (parametersWith deflate xml kind relayState).get? p.name =
      if kind.parameter = p then some (payloadWith deflate xml)
      else if Saml.Parameter.relayState = p then relayState.map Percent.encode else none := by
  rw [parametersWith, Fields.get?_cons]
  cases relayState with
  | none => rw [Option.map_none, Option.map_none, ite_self]; rfl
  | some rs => rw [Option.map_some, Option.toList_some, Fields.get?_cons, Option.map_some]; rfl

/-- The query names no encoding. -/
theorem checkEncoding_parametersWith :
    checkEncoding (parametersWith deflate xml kind relayState) = .ok () := by
  have hnone : (parametersWith deflate xml kind relayState).get? Saml.Parameter.encoding.name =
      none := by
    rw [get?_parametersWith]
    cases kind <;> rfl
  rw [checkEncoding, hnone]

/-- A payload that stands for a stream in base64 is decoded to the bytes that the stream
holds. -/
theorem decode_of_unescaped (fields : Fields) (payload : String) (stream bytes : List UInt8)
    (hencoding : checkEncoding fields = .ok ())
    (hpayload : Percent.decode payload = .ok (Base64.encode stream))
    (h : Deflate.inflate stream = .ok bytes) : decode fields payload = .ok (bytes, []) := by
  -- A blank payload would be turned away, but nothing is inflated from no bytes.
  have hnonempty : stream ≠ [] := by
    rintro rfl
    have hempty : Deflate.inflate [] = .error .truncated := by decide +kernel
    rw [hempty] at h
    exact absurd h (by simp only [reduceCtorEq, not_false_eq_true])
  have hvisible := Base64.not_anyBlank_encode stream
  rw [decode, hencoding]
  simp only [unescaped, hpayload, Base64.not_allBlank_encode stream hnonempty,
    Text.withoutBlanks_of_not_anyBlank hvisible, inflated, Base64.decode_encode, h, hvisible,
    Bool.false_eq_true, if_false]

theorem decode_of_inflate (fields : Fields) (stream bytes : List UInt8)
    (hencoding : checkEncoding fields = .ok ()) (h : Deflate.inflate stream = .ok bytes) :
    decode fields (Percent.encode (Base64.encode stream)) = .ok (bytes, []) :=
  decode_of_unescaped fields _ stream bytes hencoding (Percent.decode_encode _) h

/-- A response that carries the message of a query. -/
def receivedWith (status : Nat) (given : Bool) : Received :=
  ⟨.redirect, status, parametersWith deflate xml kind relayState, given⟩

theorem payload?_receivedWith (status : Nat) (given : Bool) :
    (receivedWith deflate xml kind relayState status given).payload? =
      some (kind, payloadWith deflate xml) := by
  -- A response is looked for before a request, and is not there beside one.
  unfold Received.payload? Received.get? receivedWith
  simp only [get?_parametersWith]
  cases kind <;> rfl

/-- The query is not signed, so nothing is found about its signature. -/
theorem signatureFinding?_receivedWith (check : Option SignatureCheck) (status : Nat)
    (given : Bool) :
    Message.signatureFinding? (receivedWith deflate xml kind relayState status given) kind check =
      none := by
  have habsent : ∀ p ∈ [Saml.Parameter.signatureAlgorithm, Saml.Parameter.signature],
      (parametersWith deflate xml kind relayState).has p.name = false := by
    intro p hp
    rw [Fields.has, get?_parametersWith]
    simp only [List.mem_cons, List.not_mem_nil, or_false] at hp
    rcases hp with rfl | rfl <;> cases kind <;> rfl
  rw [Message.signatureFinding?, receivedWith]
  simp only [querySignatureFinding?, habsent .signatureAlgorithm (by decide),
    habsent .signature (by decide), Bool.not_false, Bool.and_self, if_true]

/-- A response that carries the message of a query is decoded to this message, unless
the message is no document. -/
theorem decode_receivedWith (hdeflate : ∀ bytes, Deflate.inflate (deflate bytes) = .ok bytes)
    (check : Option SignatureCheck) (status : Nat) (given : Bool) :
    Message.decode check (receivedWith deflate xml kind relayState status given) =
      match Xml.parse xml with
      | .ok root =>
        .ok ⟨receivedWith deflate xml kind relayState status given, kind, xml, root, []⟩
      | .error e => .error ⟨.malformedXml, .redirect, e.message⟩ := by
  have hencoding : Message.checkEncoding
      (receivedWith deflate xml kind relayState status given) = .ok () :=
    checkEncoding_parametersWith deflate xml kind relayState
  have hbytes : Message.payloadBytes (receivedWith deflate xml kind relayState status given)
      (payloadWith deflate xml) = .ok (Utf8.encode xml, []) :=
    decode_of_inflate _ _ _ (checkEncoding_parametersWith deflate xml kind relayState)
      (hdeflate (Utf8.encode xml))
  have hdocument := Message.document_encode .redirect xml
  have hbinding : (receivedWith deflate xml kind relayState status given).binding = .redirect :=
    rfl
  rw [Message.decode, hencoding]
  simp only [payload?_receivedWith, hbytes, hbinding, hdocument,
    signatureFinding?_receivedWith]
  cases Xml.parse xml <;> rfl

/-- What a query carries comes back. Its parameters are the payload and then the
relay state, if there is one; the payload holds the bytes of the message; the relay
state is read back both as a query and as form data; and a response with these
parameters is decoded to the message, or else turned away because the message is no
document. -/
theorem query_carries_message
    (hdeflate : ∀ bytes, Deflate.inflate (deflate bytes) = .ok bytes) :
    let fields := Fields.ofQuery (encodeWith deflate xml kind relayState)
    ∃ payload,
      (match relayState with
        | none => fields = [(kind.parameter.name, payload)]
        | some rs => ∃ raw,
          fields = [(kind.parameter.name, payload), (Saml.Parameter.relayState.name, raw)] ∧
          Percent.decode raw = .ok rs ∧ Percent.decodeForm raw = .ok rs) ∧
      decode fields payload = .ok (Utf8.encode xml, []) ∧
      ∀ check status given,
        let received : Received := ⟨.redirect, status, fields, given⟩
        Message.decode check received =
          match Xml.parse xml with
          | .ok root => .ok ⟨received, kind, xml, root, []⟩
          | .error e => .error ⟨.malformedXml, .redirect, e.message⟩ := by
  intro fields
  have hfields : fields = parametersWith deflate xml kind relayState :=
    ofQuery_encodeWith deflate xml kind relayState
  rw [hfields]
  refine ⟨payloadWith deflate xml, ?_, ?_, ?_⟩
  · cases relayState with
    | none => rfl
    | some rs =>
        exact ⟨Percent.encode rs, rfl, Percent.decode_encode rs, Percent.decodeForm_encode rs⟩
  · exact decode_of_inflate _ _ _ (checkEncoding_parametersWith deflate xml kind relayState)
      (hdeflate (Utf8.encode xml))
  · exact decode_receivedWith deflate xml kind relayState hdeflate

/-- A way of compressing: one message by the fixed codes, and the others in plain
blocks. -/
def shortStream (bytes : List UInt8) : List UInt8 :=
  if bytes = Utf8.encode "<a/>" then [0xb3, 0x49, 0xd4, 0xb7, 0x03, 0x00]
  else Deflate.store bytes

theorem inflate_shortStream (bytes : List UInt8) :
    Deflate.inflate (shortStream bytes) = .ok bytes := by
  unfold shortStream
  by_cases h : bytes = Utf8.encode "<a/>"
  · rw [if_pos h, h]
    decide +kernel
  · rw [if_neg h]
    exact Deflate.inflate_store bytes

theorem query_carries_message_shortStream :
    (∀ bytes, Deflate.inflate (shortStream bytes) = .ok bytes) ∧
    encodeWith shortStream "<a/>" .response (some "1&2") =
      "SAMLResponse=s0nUtwMA&RelayState=1%262" ∧
    let fields := Fields.ofQuery (encodeWith shortStream "<a/>" .response (some "1&2"))
    ∃ payload,
      (∃ raw, fields = [("SAMLResponse", payload), ("RelayState", raw)] ∧
        Percent.decode raw = .ok "1&2" ∧ Percent.decodeForm raw = .ok "1&2") ∧
      decode fields payload = .ok (Utf8.encode "<a/>", []) := by
  refine ⟨inflate_shortStream, by decide +kernel, ?_⟩
  rcases query_carries_message shortStream "<a/>" .response (some "1&2") inflate_shortStream
    with ⟨payload, hfields, hbytes, -⟩
  exact ⟨payload, hfields, hbytes⟩

end Redirect

end SamlConformance
