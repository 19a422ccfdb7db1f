import SamlConformance.Proofs.Deflate.Buffer
import SamlConformance.Proofs.Deflate.Prefix
import SamlConformance.Proofs.Message.Breaches
import SamlConformance.Proofs.Message.Payloads
import SamlConformance.Proofs.Message.RoundTrip
import SamlConformance.Proofs.Xml.Epilog

/-!
# Payloads That Are Cut Short

A payload that lost its end on the way is not taken for a message. In a form it is the
document that notices: a beginning of the payload may well be base64, and the bytes in it a
text, but a text without the end of its document element is no document. In a query it is the
compressed stream, long before there is any text, since streams say where they end.

The layers around them can be cut at places where they do not notice, and some of them have
to be let pass: a payload that is cut between two groups of symbols is as good as any. What
they hold is then cut short itself, and the question goes to the next layer. Only where an
escape is cut in the middle is something left that no layer holds, and this is a percent sign,
which is no symbol of base64.

A document may be followed by blanks and comments, and cutting these off does no harm. So the
text of a form has to end with its document element here. Of a stream it must be known that
there is nothing behind it, for the same reason.

## Main definitions

* `Redirect.Carries`: A payload stands for bytes in base64.

## Theorems

* `Post.exists_error_of_cutShort`: In forms the document fails.
* `Redirect.exists_error_of_cutShort`: In queries the stream fails.
* `Message.cut_payloads_fail`: Both together, for all ways in which streams are inflated.
-/

namespace SamlConformance

/-- The payload of a message in a form is the text of the message, and the text holds a
document. -/
theorem Post.payload_of_message (check : Option SignatureCheck) (r : Received) (m : Message)
    (kind : MessageKind) (payload : String) (hpost : r.binding = .post)
    (hpayload : r.payload? = some (kind, payload)) (h : Message.decode check r = .ok m) :
    payload = encode m.xml ∧ Xml.parse m.xml = .ok m.root := by
  rcases (Message.decode_eq_ok_iff check r m).mp h
    with ⟨kind', payload', bytes, found, xml, root, hsteps, rfl⟩
  obtain ⟨-, rfl⟩ := Prod.mk.inj (Option.some.inj (hpayload.symm.trans hsteps.carried))
  have hunpacked := hsteps.unpacked
  rw [Message.payloadBytes, hpost] at hunpacked
  obtain ⟨bytes', hbytes, heq⟩ := Xml.exists_of_map_eq_ok hunpacked
  obtain ⟨rfl, -⟩ := Prod.mk.inj heq
  obtain ⟨hxml, hroot⟩ := (Message.document_eq_ok_iff _ bytes' xml root).mp hsteps.parsed
  exact ⟨by rw [((decode_eq_ok_iff payload bytes').mp hbytes).2, hxml, encode], hroot⟩

/-- A payload in a form that is cut short holds no document, if the document it held went up to
the end of the text. -/
theorem Post.exists_error_of_cutShort (check check' : Option SignatureCheck) (r r' : Received)
    (m : Message) (kind kind' : MessageKind) (payload cut : String)
    (hpost : r.binding = .post) (hpayload : r.payload? = some (kind, payload))
    (hmessage : Message.decode check r = .ok m) (hends : Xml.epilog? m.xml.toList = some [])
    (hpost' : r'.binding = .post) (hcut : r'.payload? = some (kind', cut))
    (hshort : CutShort cut.toList payload.toList) :
    ∃ e, Message.decode check' r' = .error e ∧
      (e.kind = .missingPayload ∨ e.kind = .malformed ∨ e.kind = .malformedXml) := by
  cases hdecode : Message.decode check' r' with
  | error e => exact ⟨e, rfl, Message.decode_error_kind_of_post check' r' e hpost' hdecode⟩
  | ok m' =>
      -- A message in what is left would have a text that is cut short too.
      obtain ⟨hwhole, -⟩ := payload_of_message check r m kind payload hpost hpayload hmessage
      obtain ⟨hleft, hparse⟩ := payload_of_message check' r' m' kind' cut hpost' hcut hdecode
      rw [hwhole, hleft, encode, encode] at hshort
      have htext := (Utf8.cutShort_encode_iff _ _).mp (Base64.cutShort_of_encode _ _ hshort)
      obtain ⟨e, hnone⟩ := Xml.exists_error_of_cutShort _ _ htext hends
      exact absurd (hnone.symm.trans hparse) (by simp only [reduceCtorEq, not_false_eq_true])

namespace Redirect

/-- A percent sign is no symbol, and no blank either. -/
theorem inflated_of_sign (text : String) (h : Percent.sign ∈ Utf8.encode text) :
    ∃ e, inflated (Text.withoutBlanks text) = .error e := by
  unfold inflated
  cases hread : Base64.decode (Text.withoutBlanks text) with
  | error f => exact ⟨_, rfl⟩
  | ok bytes =>
      have hsign := Utf8.mem_toList_of_mem_encode text Percent.sign (by decide) h
      have hkept : '%' ∈ (Text.withoutBlanks text).toList := by
        rw [Text.withoutBlanks, String.toList_ofList]
        exact List.mem_filter.mpr ⟨hsign, rfl⟩
      have hbytes := (Base64.decode_eq_ok_iff _ bytes).mp hread
      exact absurd ((Base64.exists_encode_iff _).mp ⟨bytes, hbytes⟩)
        (Base64.not_canonical_of_foreign _ '%' hkept (by decide) (by decide))

/-- What is left of a stream in base64 is no base64, or a stream that does not end. -/
theorem inflated_of_cutShort (text : String) (stream out : List UInt8)
    (h : CutShort text.toList (Base64.encode stream).toList)
    (hends : Deflate.inflateFrom stream = .ok (out, [])) :
    ∃ e, inflated (Text.withoutBlanks text) = .error e ∧
      ∀ bytes, Base64.decode text = .ok bytes → e.kind = .inflateFailed := by
  have hvisible : Text.anyBlank text = false := by
    refine List.any_eq_false.mpr fun c hc => ?_
    exact List.any_eq_false.mp (Base64.not_anyBlank_encode stream) c (h.1.subset hc)
  rw [Text.withoutBlanks_of_not_anyBlank hvisible]
  unfold inflated
  cases hread : Base64.decode text with
  | error f =>
      exact ⟨_, rfl, fun bytes h => absurd h (by simp only [reduceCtorEq, not_false_eq_true])⟩
  | ok bytes =>
      rw [(Base64.decode_eq_ok_iff text bytes).mp hread] at h
      obtain ⟨f, hf⟩ := Deflate.exists_error_of_cutShort bytes stream out
        (Base64.cutShort_of_encode bytes stream h) hends
      simp only [hf]
      exact ⟨_, rfl, fun _ _ => rfl⟩

/-- A payload carries bytes in base64, with escapes or without. -/
def Carries (payload : String) (bytes : List UInt8) : Prop :=
  Percent.decode payload = .ok (Base64.encode bytes)

theorem carries_encode (bytes : List UInt8) : Carries (Base64.encode bytes) bytes :=
  Percent.decode_base64 bytes

theorem carries_escaped (bytes : List UInt8) :
    Carries (Percent.encode (Base64.encode bytes)) bytes :=
  Percent.decode_encode _

/-- A payload that is cut short fails, and if it still carries bytes, then because these are
no stream. -/
theorem exists_error_of_cutShort (fields : Fields) (payload cut : String)
    (stream out : List UInt8) (hends : Deflate.inflateFrom stream = .ok (out, []))
    (hpayload : Carries payload stream) (hencoding : checkEncoding fields = .ok ())
    (hshort : CutShort cut.toList payload.toList) :
    ∃ e, decode fields cut = .error e ∧
      ∀ bytes, Carries cut bytes → bytes ≠ [] → e.kind = .inflateFailed := by
  unfold Carries
  rw [decode, hencoding]
  unfold unescaped
  cases htext : Percent.decode cut with
  | error f =>
      exact ⟨_, rfl, fun bytes h => absurd h (by simp only [reduceCtorEq, not_false_eq_true])⟩
  | ok text =>
      simp only
      split
      · rename_i hblank
        refine ⟨_, rfl, fun bytes heq hne => ?_⟩
        rw [Except.ok.inj heq, Base64.not_allBlank_encode bytes hne] at hblank
        exact absurd hblank Bool.false_ne_true
      · have hfails : ∃ e, inflated (Text.withoutBlanks text) = .error e ∧
            ∀ bytes, Base64.decode text = .ok bytes → e.kind = .inflateFailed := by
          rcases Percent.cutShort_decode cut payload text _
              (Base64.utf8_encode stream ▸ Base64.sign_not_mem_encodeBytes stream) hpayload hshort
              htext with hsign | hleft
          · obtain ⟨e, he⟩ := inflated_of_sign text hsign
            refine ⟨e, he, fun bytes hread => ?_⟩
            rw [(Base64.decode_eq_ok_iff text bytes).mp hread, Base64.utf8_encode] at hsign
            exact absurd hsign (Base64.sign_not_mem_encodeBytes bytes)
          · exact inflated_of_cutShort text stream out hleft hends
        obtain ⟨e, he, hkind⟩ := hfails
        simp only [he]
        refine ⟨e, rfl, fun bytes heq _ => hkind bytes ?_⟩
        exact (Base64.decode_eq_ok_iff text bytes).mpr (Except.ok.inj heq)

end Redirect

namespace Message

/-- A response to a redirect is no message if its payload is none. -/
theorem exists_error_of_payload (check : Option SignatureCheck) (r : Received)
    (kind : MessageKind) (payload : String) (hredirect : r.binding = .redirect)
    (hpayload : r.payload? = some (kind, payload))
    (h : ∃ e, Redirect.decode r.fields payload = .error e) : ∃ e, decode check r = .error e := by
  obtain ⟨e, he⟩ := h
  cases hdecode : decode check r with
  | error e' => exact ⟨e', rfl⟩
  | ok m =>
      rcases (decode_eq_ok_iff check r m).mp hdecode
        with ⟨kind', payload', bytes, found, xml, root, hsteps, -⟩
      obtain ⟨-, rfl⟩ := Prod.mk.inj (Option.some.inj (hpayload.symm.trans hsteps.carried))
      have hunpacked := hsteps.unpacked
      rw [payloadBytes, hredirect] at hunpacked
      exact absurd (he.symm.trans hunpacked) (by simp only [reduceCtorEq, not_false_eq_true])

/-- No payload is accepted when its end is missing. On a form this is so if the text of the
message ends where its document element ends, and the failure is one of three. Such a text has
nothing behind the bracket that closes the document element (`Xml.epilog?_split`). On a query it
is so if the stream ends with its last byte: the whole payload gives what the stream holds,
and what is left of it fails, because of the stream if it still carries bytes. How the stream
is inflated does not matter, since any buffer leads to the same result. -/
theorem cut_payloads_fail :
    (∀ check r m kind payload, r.binding = .post → r.payload? = some (kind, payload) →
      decode check r = .ok m → Xml.epilog? m.xml.toList = some [] →
      ∀ check' r' kind' cut, r'.binding = .post → r'.payload? = some (kind', cut) →
        CutShort cut.toList payload.toList →
        ∃ e, decode check' r' = .error e ∧
          (e.kind = .missingPayload ∨ e.kind = .malformed ∨ e.kind = .malformedXml)) ∧
    (∀ stream out, Deflate.inflateFrom stream = .ok (out, []) →
      Redirect.Carries (Base64.encode stream) stream ∧
      Redirect.Carries (Percent.encode (Base64.encode stream)) stream ∧
      ∀ payload, Redirect.Carries payload stream →
        (∀ fields, Redirect.checkEncoding fields = .ok () →
          Redirect.decode fields payload = .ok (out, [])) ∧
        ∀ cut, CutShort cut.toList payload.toList →
          (∀ fields, ∃ e, Redirect.decode fields cut = .error e ∧
            (Redirect.checkEncoding fields = .ok () → ∀ bytes,
              Base64.decode cut = .ok bytes ∨ Redirect.Carries cut bytes → bytes ≠ [] →
              e.kind = .inflateFailed)) ∧
          ∀ check r kind, r.binding = .redirect → r.payload? = some (kind, cut) →
            ∃ e, decode check r = .error e) ∧
    (∀ (σ : Type) (D : Deflate.Decompressor σ), D.Faithful →
      ∀ enlarge, (∀ n, n < enlarge n) → ∀ stream capacity result,
        D.Ends enlarge stream D.first capacity result ↔ result = Deflate.inflate stream) := by
  refine ⟨?_, ?_, ?_⟩
  · intro check r m kind payload hpost hpayload hmessage hends check' r' kind' cut hpost' hcut
    exact Post.exists_error_of_cutShort check check' r r' m kind kind' payload cut hpost hpayload
      hmessage hends hpost' hcut
  · intro stream out hends
    refine ⟨Redirect.carries_encode stream, Redirect.carries_escaped stream, ?_⟩
    intro payload hpayload
    refine ⟨fun fields hencoding => ?_, fun cut hshort => ?_⟩
    · have hinflate : Deflate.inflate stream = .ok out := by
        rw [Deflate.inflate, hends]
        rfl
      exact Redirect.decode_of_unescaped fields payload stream out hencoding hpayload hinflate
    · have hfails : ∀ fields, ∃ e, Redirect.decode fields cut = .error e ∧
          (Redirect.checkEncoding fields = .ok () → ∀ bytes,
            Base64.decode cut = .ok bytes ∨ Redirect.Carries cut bytes → bytes ≠ [] →
            e.kind = .inflateFailed) := by
        intro fields
        cases hencoding : Redirect.checkEncoding fields with
        | error e =>
            refine ⟨e, ?_, fun h => absurd h (by simp only [reduceCtorEq, not_false_eq_true])⟩
            rw [Redirect.decode, hencoding]
        | ok _ =>
            obtain ⟨e, he, hkind⟩ := Redirect.exists_error_of_cutShort fields payload cut stream out
              hends hpayload hencoding hshort
            refine ⟨e, he, fun _ bytes hbytes => hkind bytes ?_⟩
            rcases hbytes with hread | hcarries
            · rw [(Base64.decode_eq_ok_iff cut bytes).mp hread]
              exact Redirect.carries_encode bytes
            · exact hcarries
      refine ⟨hfails, fun check r kind hredirect hcut => ?_⟩
      obtain ⟨e, he, -⟩ := hfails r.fields
      exact exists_error_of_payload check r kind cut hredirect hcut ⟨e, he⟩
  · intro σ D hD enlarge henlarge stream capacity result
    exact Deflate.Decompressor.ends_iff hD henlarge capacity result

/-- A document of one tag in a form, and the same as a short stream in a query, both cut behind
a group of symbols; and the stream inflated into a buffer that it fills exactly. -/
theorem cut_payloads_fail_oneTag :
    (∃ e, decode none ⟨.post, 200, [("SAMLResponse", "PGEv")], false⟩ = .error e ∧
      (e.kind = .missingPayload ∨ e.kind = .malformed ∨ e.kind = .malformedXml)) ∧
    Redirect.decode [] "s0nUtwMA" = .ok (Utf8.encode "<a/>", []) ∧
    (∃ e, Redirect.decode [] "s0nU" = .error e ∧ e.kind = .inflateFailed) ∧
    Deflate.allAtOnce.Ends (· + 4096) [0xb3, 0x49, 0xd4, 0xb7, 0x03, 0x00]
      Deflate.allAtOnce.first 4 (.ok (Utf8.encode "<a/>")) := by
  rcases cut_payloads_fail with ⟨hpost, hredirect, hbuffer⟩
  have hstream : Deflate.inflateFrom [0xb3, 0x49, 0xd4, 0xb7, 0x03, 0x00] =
      .ok (Utf8.encode "<a/>", []) := by decide +kernel
  have htext : Base64.encode [0xb3, 0x49, 0xd4, 0xb7, 0x03, 0x00] = "s0nUtwMA" := by decide +kernel
  rcases hredirect _ _ hstream with ⟨hcarries, -, hpayload⟩
  rw [htext] at hcarries
  rcases hpayload "s0nUtwMA" hcarries with ⟨hwhole, hcut⟩
  refine ⟨?_, hwhole [] rfl, ?_, ?_⟩
  · have hends : Xml.epilog? "<a/>".toList = some [] := by decide +kernel
    obtain ⟨root, hroot, -⟩ := Xml.exists_parse_eq_ok "<a/>" (fun _ => True) (by decide +kernel)
    exact hpost none _ _ .response "PGEvPg==" rfl (by decide +kernel)
      (decode_posted none "<a/>" root hroot) hends none _ .response "PGEv" rfl rfl (by decide)
  · obtain ⟨e, he, hkind⟩ := (hcut "s0nU" (by decide)).1 []
    have hbytes : Base64.encode [0xb3, 0x49, 0xd4] = "s0nU" := by decide +kernel
    have hread := (Base64.decode_eq_ok_iff _ _).mpr hbytes.symm
    exact ⟨e, he, hkind rfl [0xb3, 0x49, 0xd4] (Or.inl hread) (List.cons_ne_nil _ _)⟩
  · refine (hbuffer _ _ Deflate.faithful_allAtOnce _ (fun n => by omega) _ 4 _).mpr ?_
    rw [Deflate.inflate, hstream]
    rfl

end Message

end SamlConformance
