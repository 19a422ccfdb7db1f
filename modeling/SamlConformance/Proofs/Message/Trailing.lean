import SamlConformance.Proofs.Message.Blanks
import SamlConformance.Proofs.Message.Truncation

/-!
# Bytes behind the Stream of a Payload

A compressed stream says where it ends, and who inflates it stops there. Whether this is where
the payload ends is a question of its own, and it is not asked. So a payload of a redirect may
go on behind its stream, with anything, and is decoded to what the stream holds as if it ended
there. Nothing is noted either, and the message is the one in the stream.

This is as far as it goes. If a payload can be inflated, there is a stream at the beginning of
it, and this stream is complete by itself. A payload without such a beginning fails, for the
stream if it holds any bytes at all. The loop around a decompressor makes no difference: it
ends when the decompressor says so, whatever was not taken by then.

## Theorems

* `Redirect.decode_of_carries`: A payload that carries bytes is decoded to what they inflate to.
* `Redirect.decode_of_stream`: Nothing behind the stream is looked at.
* `Redirect.inflateFailed_iff`: A payload fails if no beginning of it is a stream.
* `Redirect.inflateFailed_of_no_stream_iff`: Where it would be the same to ask for the whole.
* `Message.trailing_bytes_ignored`: All this, down to the message.
-/

namespace SamlConformance

namespace Redirect

/-- A payload that carries bytes is decoded to what they inflate to, or fails with them. -/
theorem decode_of_carries (fields : Fields) (payload : String) (bytes : List UInt8)
    (hencoding : checkEncoding fields = .ok ()) (hpayload : Carries payload bytes)
    (hbytes : bytes ≠ []) :
    decode fields payload = match Deflate.inflate bytes with
      | .ok out => .ok (out, [])
      | .error f => .error ⟨.inflateFailed, .redirect, inflateDetail f⟩ := by
  have hvisible := Base64.not_anyBlank_encode bytes
  rw [decode_of_text fields payload _ hencoding hpayload, Base64.not_allBlank_encode bytes hbytes,
    Text.withoutBlanks_of_not_anyBlank hvisible, hvisible, inflated, Base64.decode_encode]
  simp only [Bool.false_eq_true, if_false]
  cases Deflate.inflate bytes with
  | error f => rfl
  | ok out => rfl

/-- Nothing behind the stream is looked at. -/
theorem decode_of_stream (fields : Fields) (payload : String) (stream more out : List UInt8)
    (hencoding : checkEncoding fields = .ok ()) (hpayload : Carries payload (stream ++ more))
    (hends : Deflate.inflateFrom stream = .ok (out, [])) :
    decode fields payload = .ok (out, []) :=
  decode_of_unescaped fields payload (stream ++ more) out hencoding hpayload
    ((Deflate.inflate_eq_ok_iff _ out).mpr ⟨stream, more, rfl, hends⟩)

/-- A payload that carries bytes fails to be inflated if no stream is the beginning of them. -/
theorem inflateFailed_iff (fields : Fields) (payload : String) (bytes : List UInt8)
    (hencoding : checkEncoding fields = .ok ()) (hpayload : Carries payload bytes)
    (hbytes : bytes ≠ []) :
    (∃ e, decode fields payload = .error e ∧ e.kind = .inflateFailed) ↔
      ¬ ∃ stream more out, bytes = stream ++ more ∧
        Deflate.inflateFrom stream = .ok (out, []) := by
  rw [decode_of_carries fields payload bytes hencoding hpayload hbytes]
  cases hinflate : Deflate.inflate bytes with
  | error f =>
      refine iff_of_true ⟨_, rfl, rfl⟩ ?_
      rintro ⟨stream, more, out, hsplit⟩
      have hok := (Deflate.inflate_eq_ok_iff bytes out).mpr ⟨stream, more, hsplit⟩
      exact absurd (hinflate.symm.trans hok) (by simp only [reduceCtorEq, not_false_eq_true])
  | ok out =>
      obtain ⟨stream, more, hsplit⟩ := (Deflate.inflate_eq_ok_iff bytes out).mp hinflate
      refine iff_of_false ?_ (not_not_intro ⟨stream, more, out, hsplit⟩)
      rintro ⟨e, he, -⟩
      exact absurd he (by simp only [reduceCtorEq, not_false_eq_true])

/-- Failures to inflate cover everything but single streams only where nothing can be left behind
a stream. -/
theorem inflateFailed_of_no_stream_iff (fields : Fields) (payload : String) (bytes : List UInt8)
    (hencoding : checkEncoding fields = .ok ()) (hpayload : Carries payload bytes)
    (hbytes : bytes ≠ []) :
    ((∀ out, Deflate.inflateFrom bytes ≠ .ok (out, [])) →
        ∃ e, decode fields payload = .error e ∧ e.kind = .inflateFailed) ↔
      ∀ stream more out, bytes = stream ++ more →
        Deflate.inflateFrom stream = .ok (out, []) → more = [] := by
  rw [inflateFailed_iff fields payload bytes hencoding hpayload hbytes]
  constructor
  · rintro hfails stream more out rfl hends
    have hrest := Deflate.inflateFrom_append stream out [] more hends
    by_contra hmore
    refine hfails (fun out' hout => ?_) ⟨stream, more, out, rfl, hends⟩
    exact hmore (Prod.mk.inj (Except.ok.inj (hrest.symm.trans hout))).2
  · rintro hnothing hnone ⟨stream, more, out, rfl, hends⟩
    obtain rfl := hnothing stream more out rfl hends
    rw [List.append_nil] at hnone
    exact hnone out hends

end Redirect

namespace Message

/-- A redirect is the message in what its payload is decoded to. -/
theorem decode_of_redirect (check : Option SignatureCheck) (r : Received) (kind : MessageKind)
    (payload : String) (bytes : List UInt8) (hredirect : r.binding = .redirect)
    (hencoding : Redirect.checkEncoding r.fields = .ok ())
    (hpayload : r.payload? = some (kind, payload))
    (hbytes : Redirect.decode r.fields payload = .ok (bytes, [])) :
    decode check r = (document .redirect bytes).map fun d =>
      ⟨r, kind, d.1, d.2, (signatureFinding? r kind check).toList⟩ := by
  have hcheck : checkEncoding r = .ok () := by
    rw [checkEncoding, hredirect]
    exact hencoding
  have hheld : payloadBytes r payload = .ok (bytes, []) := by
    rw [payloadBytes, hredirect]
    exact hbytes
  simp only [decode, hcheck, hpayload, hheld, hredirect, List.nil_append]
  cases document .redirect bytes with
  | error e => rfl
  | ok d => rfl

/-- What stands behind the stream in the payload of a redirect is ignored. Payloads fail for
their stream only if no beginning of their bytes is one, which is for whatever is not a single
stream only where nothing is left behind one. If there is a stream, the payload is decoded to
what it holds, and nothing is noted; the message is the document in these bytes. The loop around
a decompressor ends with them as well. -/
theorem trailing_bytes_ignored (fields : Fields) (payload : String) (bytes : List UInt8)
    (hencoding : Redirect.checkEncoding fields = .ok ())
    (hpayload : Redirect.Carries payload bytes) (hbytes : bytes ≠ []) :
    Redirect.Carries (Base64.encode bytes) bytes ∧
    ((∃ e, Redirect.decode fields payload = .error e ∧ e.kind = .inflateFailed) ↔
      ¬ ∃ stream more out, bytes = stream ++ more ∧
        Deflate.inflateFrom stream = .ok (out, [])) ∧
    (((∀ out, Deflate.inflateFrom bytes ≠ .ok (out, [])) →
        ∃ e, Redirect.decode fields payload = .error e ∧ e.kind = .inflateFailed) ↔
      ∀ stream more out, bytes = stream ++ more →
        Deflate.inflateFrom stream = .ok (out, []) → more = []) ∧
    ∀ stream more out, bytes = stream ++ more → Deflate.inflateFrom stream = .ok (out, []) →
      Redirect.decode fields payload = .ok (out, []) ∧
      (∀ check r kind, r.binding = .redirect → r.fields = fields →
        r.payload? = some (kind, payload) →
        decode check r = (document .redirect out).map fun d =>
          ⟨r, kind, d.1, d.2, (signatureFinding? r kind check).toList⟩) ∧
      ∀ (σ : Type) (D : Deflate.Decompressor σ), D.Faithful →
        ∀ enlarge, (∀ n, n < enlarge n) → ∀ capacity result,
          (D.Ends enlarge bytes D.first capacity result ↔ result = .ok out) := by
  refine ⟨Redirect.carries_encode bytes,
    Redirect.inflateFailed_iff fields payload bytes hencoding hpayload hbytes,
    Redirect.inflateFailed_of_no_stream_iff fields payload bytes hencoding hpayload hbytes, ?_⟩
  rintro stream more out rfl hends
  have hdecode :=
    Redirect.decode_of_stream fields payload stream more out hencoding hpayload hends
  refine ⟨hdecode, ?_, ?_⟩
  · rintro check r kind hredirect rfl hcarried
    exact decode_of_redirect check r kind payload out hredirect hencoding hcarried hdecode
  · intro σ D hD enlarge henlarge capacity result
    have hinflate := (Deflate.inflate_eq_ok_iff _ out).mpr ⟨stream, more, rfl, hends⟩
    rw [Deflate.Decompressor.ends_iff hD henlarge capacity result, hinflate]

/-- A stream that holds one tag, with a byte behind it, and the same stream without its last
byte. -/
theorem trailing_bytes_ignored_oneTag :
    Redirect.decode [] "s0nUtwMAIQ==" = .ok (Utf8.encode "<a/>", []) ∧
    (∃ e, Redirect.decode [] "s0nUtwM=" = .error e ∧ e.kind = .inflateFailed) ∧
    Deflate.allAtOnce.Ends (· + 4096) [0xb3, 0x49, 0xd4, 0xb7, 0x03, 0x00, 0x21]
      Deflate.allAtOnce.first 4 (.ok (Utf8.encode "<a/>")) := by
  have hstream : Deflate.inflateFrom [0xb3, 0x49, 0xd4, 0xb7, 0x03, 0x00] =
      .ok (Utf8.encode "<a/>", []) := by decide +kernel
  have hcut : Deflate.inflate [0xb3, 0x49, 0xd4, 0xb7, 0x03] = .error .truncated := by
    decide +kernel
  have hlong : Redirect.Carries "s0nUtwMAIQ==" [0xb3, 0x49, 0xd4, 0xb7, 0x03, 0x00, 0x21] := by
    rw [Redirect.Carries]
    decide +kernel
  have hshort : Redirect.Carries "s0nUtwM=" [0xb3, 0x49, 0xd4, 0xb7, 0x03] := by
    rw [Redirect.Carries]
    decide +kernel
  obtain ⟨-, -, -, hignored⟩ := trailing_bytes_ignored [] _ _ rfl hlong (List.cons_ne_nil _ _)
  obtain ⟨-, hfails, -, -⟩ := trailing_bytes_ignored [] _ _ rfl hshort (List.cons_ne_nil _ _)
  obtain ⟨hdecode, -, hbuffer⟩ := hignored _ [0x21] _ rfl hstream
  refine ⟨hdecode, hfails.mpr ?_, ?_⟩
  · rintro ⟨stream, more, out, hsplit⟩
    have hok := (Deflate.inflate_eq_ok_iff _ out).mpr ⟨stream, more, hsplit⟩
    exact absurd (hcut.symm.trans hok) (by simp only [reduceCtorEq, not_false_eq_true])
  · exact (hbuffer _ _ Deflate.faithful_allAtOnce _ (fun n => by omega) 4 _).mpr rfl

/-- A byte behind a complete stream does not make a payload fail. -/
theorem trailing_byte_accepted :
    Deflate.inflateFrom [0xb3, 0x49, 0xd4, 0xb7, 0x03, 0x00] = .ok (Utf8.encode "<a/>", []) ∧
      ∀ e, Redirect.decode [] (Base64.encode ([0xb3, 0x49, 0xd4, 0xb7, 0x03, 0x00] ++ [0x21])) ≠
        .error e := by
  have hstream : Deflate.inflateFrom [0xb3, 0x49, 0xd4, 0xb7, 0x03, 0x00] =
      .ok (Utf8.encode "<a/>", []) := by decide +kernel
  refine ⟨hstream, fun e he => ?_⟩
  rw [Redirect.decode_of_stream [] _ _ _ _ rfl (Redirect.carries_encode _) hstream] at he
  exact absurd he (by simp only [reduceCtorEq, not_false_eq_true])

end Message

end SamlConformance
