import SamlConformance.Proofs.Coding.Spellings
import SamlConformance.Proofs.Judge.UnreadableEncoding
import SamlConformance.Proofs.Message.Payloads

/-!
# Blanks in the Payloads of Redirects

A query is where payloads are handled least carefully: characters are escaped or not, in digits
of either kind, and lines are broken. None of this takes anything away from the message. What
is decoded is the symbols that are left when escapes are resolved and blanks are taken out, and
how they were written makes no difference to the result, whether this is bytes or a failure.
Only that there were blanks is noted, once for all of them.

Escapes come first and blanks second, so that a blank may be escaped too. Both steps are done
on the whole text. For the payload without blanks they do nothing, and so two payloads are
compared by comparing each with its text.

There are two tests for blanks, and they are not the same test. The one that notes a finding
asks whether there is a blank in the text. The one that gives up asks whether there is anything
else, and says of an empty payload that it is blank. Forms ask first whether there is a payload
at all. So an empty payload is missing on a form and blank on a redirect, although no blank is
in it.

## Main definitions

* `Redirect.Blanked`: A payload stands for a text with blanks in it.
* `Redirect.ReportsBlanks`: A payload is decoded, or fails, with a report of blanks.

## Theorems

* `Redirect.decode_of_text`: Behind its escapes a payload is decoded by its text.
* `Redirect.decode_symbols_with_blanks`: Spelling and blanks change nothing but the finding.
* `Redirect.decode_eq_whitespaceDetected_iff`, `Redirect.found_of_decode`: When blanks are
  reported.
* `Redirect.blanked_of_reportsBlanks_iff`: When the report is right.
* `Message.empty_payloads`: What becomes of empty payloads, and that no others are reported
  without a blank.
-/

namespace SamlConformance

/-- There are no blanks among the symbols of base64 and its padding. -/
theorem Base64.not_isBlank_symbol (c : Char) (h : c ∈ alphabet ∨ c = '=') :
    Text.isBlank c = false := by
  rw [Bool.eq_false_iff]
  intro hblank
  rcases Post.foreign_of_blank c (Or.inl hblank) with ⟨hsymbol, hpad⟩
  exact h.elim hsymbol hpad

namespace Text

variable {symbols blanks text : List Char}

/-- Taking blanks out gives back the symbols. -/
theorem withoutBlanks_merged (h : Merged symbols blanks text)
    (hsymbols : ∀ c ∈ symbols, isBlank c = false) (hblanks : ∀ c ∈ blanks, isBlank c = true) :
    withoutBlanks (String.ofList text) = String.ofList symbols := by
  rw [withoutBlanks, String.toList_ofList,
    h.filter_eq _ (fun c hc => by rw [hsymbols c hc]; rfl) fun c hc => by rw [hblanks c hc]; rfl]

theorem anyBlank_merged (h : Merged symbols blanks text)
    (hsymbols : ∀ c ∈ symbols, isBlank c = false) (hblanks : ∀ c ∈ blanks, isBlank c = true) :
    anyBlank (String.ofList text) = true ↔ blanks ≠ [] := by
  rw [anyBlank, String.toList_ofList, List.any_eq_true]
  constructor
  · rintro ⟨c, hc, hblank⟩
    rcases (h.mem_iff c).mp hc with hmem | hmem
    · exact absurd ((hsymbols c hmem).symm.trans hblank) Bool.false_ne_true
    · exact List.ne_nil_of_mem hmem
  · intro hne
    obtain ⟨c, hc⟩ := List.exists_mem_of_ne_nil blanks hne
    exact ⟨c, (h.mem_iff c).mpr (Or.inr hc), hblanks c hc⟩

/-- There is nothing but blanks if there are no symbols, whatever was put in between. -/
theorem allBlank_merged (h : Merged symbols blanks text)
    (hblanks : ∀ c ∈ blanks, isBlank c = true) :
    allBlank (String.ofList text) = allBlank (String.ofList symbols) := by
  rw [Bool.eq_iff_iff, allBlank, allBlank, String.toList_ofList, String.toList_ofList,
    List.all_eq_true, List.all_eq_true]
  constructor
  · exact fun hall c hc => hall c ((h.mem_iff c).mpr (Or.inl hc))
  · exact fun hall c hc => ((h.mem_iff c).mp hc).elim (hall c) (hblanks c)

/-- A text without a blank is blank only if it is empty. -/
theorem eq_empty_of_allBlank (text : String) (hall : allBlank text = true)
    (hany : anyBlank text = false) : text = "" := by
  refine String.toList_inj.mp (List.eq_nil_iff_forall_not_mem.mpr fun c hc => ?_)
  exact absurd (List.all_eq_true.mp hall c hc) (List.any_eq_false.mp hany c hc)

end Text

namespace Redirect

/-- Behind its escapes a payload is decoded by its text. -/
theorem decode_of_text (fields : Fields) (payload text : String)
    (hencoding : checkEncoding fields = .ok ()) (htext : Percent.decode payload = .ok text) :
    decode fields payload =
      if Text.allBlank text then .error ⟨.whitespaceDetected, .redirect, "payload is blank"⟩
      else (inflated (Text.withoutBlanks text)).map fun bytes =>
        (bytes, if Text.anyBlank text then [blanksFound] else []) := by
  rw [decode, hencoding]
  simp only [unescaped, htext]
  split
  · rfl
  · cases inflated (Text.withoutBlanks text) with
    | error e => rfl
    | ok bytes => rfl

/-- Symbols of base64 are decoded to the same bytes, or fail in the same way, however they are
spelled and whatever blanks are put between them. If there are blanks, this is noted once, and
if there are none, nothing is. -/
theorem decode_symbols_with_blanks (fields : Fields) (symbols blanks text : List Char)
    (payload : String) (hsymbols : ∀ c ∈ symbols, c ∈ Base64.alphabet ∨ c = '=')
    (hblanks : ∀ c ∈ blanks, Text.isBlank c = true) (hmerged : Merged symbols blanks text)
    (hspelled : Percent.Spelled (String.ofList text) payload) :
    (decode fields payload = (decode fields (String.ofList symbols)).map fun held =>
        (held.1, if blanks = [] then [] else [blanksFound])) ∧
      blanksFound.clauses = [.bindings_3_4_4_1_b] := by
  refine ⟨?_, rfl⟩
  have hvisible : ∀ c ∈ symbols, Text.isBlank c = false :=
    fun c hc => Base64.not_isBlank_symbol c (hsymbols c hc)
  -- Percent signs are neither symbols nor blanks, so that nothing but escapes is resolved.
  have hsign : '%' ∉ symbols := by
    intro hmem
    exact absurd (hsymbols '%' hmem) (by decide)
  have hsignText : '%' ∉ text := by
    intro hmem
    rcases (hmerged.mem_iff '%').mp hmem with hmem | hmem
    · exact hsign hmem
    · exact absurd (hblanks '%' hmem) (by decide)
  have htext : Percent.decode payload = .ok (String.ofList text) :=
    Percent.decode_spelled _ payload (by rwa [String.toList_ofList]) hspelled
  have hplain : Percent.decode (String.ofList symbols) = .ok (String.ofList symbols) :=
    Percent.decode_spelled _ _ (by rwa [String.toList_ofList]) (Percent.spelled_self _)
  have hnone : Text.anyBlank (String.ofList symbols) = false := by
    rw [Text.anyBlank, String.toList_ofList, List.any_eq_false]
    exact fun c hc => Bool.eq_false_iff.mp (hvisible c hc)
  cases hencoding : checkEncoding fields with
  | error e =>
      rw [decode, decode, hencoding]
      rfl
  | ok _ =>
      rw [decode_of_text fields payload _ hencoding htext,
        decode_of_text fields _ _ hencoding hplain, Text.allBlank_merged hmerged hblanks,
        Text.withoutBlanks_merged hmerged hvisible hblanks,
        Text.withoutBlanks_of_not_anyBlank hnone]
      split
      · rfl
      cases inflated (String.ofList symbols) with
      | error e => rfl
      | ok bytes =>
          have hany := Text.anyBlank_merged hmerged hvisible hblanks
          by_cases hempty : blanks = []
          · have hnoneText := Bool.eq_false_iff.mpr fun h => hany.mp h hempty
            simp only [Except.map, hnoneText, if_pos hempty, Bool.false_eq_true, if_false]
          · simp only [Except.map, hany.mpr hempty, if_neg hempty, if_true]

/-- A payload with two blanks in it, one of them escaped, and some symbols escaped as well. The
plus sign stays a symbol, and the two bytes come out that it holds without the blanks. -/
theorem decode_symbols_with_blanks_brokenLine :
    decode [] "%73+%C2%a0ECAA%3d\n=" = .ok (Utf8.encode "<\n", [blanksFound]) := by
  have hescape : Percent.Spells 's' ['%', '7', '3'] ∧ Percent.Spells '=' ['%', '3', 'd'] :=
    ⟨Or.inr ⟨[_], .cons ⟨'7', '3', 7, 3, rfl, rfl, rfl, rfl⟩ .nil, rfl⟩,
      Or.inr ⟨[_], .cons ⟨'3', 'd', 3, 13, rfl, rfl, rfl, rfl⟩ .nil, rfl⟩⟩
  have hspace : Percent.Spells '\u00a0' ['%', 'C', '2', '%', 'a', '0'] :=
    Or.inr ⟨[_, _], .cons ⟨'C', '2', 12, 2, rfl, rfl, rfl, rfl⟩
      (.cons ⟨'a', '0', 10, 0, rfl, rfl, rfl, rfl⟩ .nil), rfl⟩
  have hself : ∀ c, Percent.Spells c [c] := fun c => Or.inl rfl
  have hspelled : Percent.Spelled "s+\u00a0ECAA=\n=" "%73+%C2%a0ECAA%3d\n=" :=
    ⟨[_, _, _, _, _, _, _, _, _, _], .cons hescape.1 <| .cons (hself '+') <| .cons hspace <|
      .cons (hself 'E') <| .cons (hself 'C') <| .cons (hself 'A') <| .cons (hself 'A') <|
      .cons hescape.2 <| .cons (hself '\n') <| .cons (hself '=') .nil, rfl⟩
  have hmerged : Merged "s+ECAA==".toList ['\u00a0', '\n'] "s+\u00a0ECAA=\n=".toList :=
    Merged.of_filter (fun c => !Text.isBlank c) "s+\u00a0ECAA=\n=".toList
  have hknown : "s+ECAA==".toList ⊆ '=' :: Base64.alphabet := by decide
  have hsymbols : ∀ c ∈ "s+ECAA==".toList, c ∈ Base64.alphabet ∨ c = '=' :=
    fun c hc => (List.mem_cons.mp (hknown hc)).symm
  have hblanks : ∀ c ∈ ['\u00a0', '\n'], Text.isBlank c = true :=
    List.all_eq_true.mp (by decide)
  have hplain : decode [] "s+ECAA==" = .ok (Utf8.encode "<\n", []) := by decide +kernel
  rw [(decode_symbols_with_blanks [] _ _ _ _ hsymbols hblanks hmerged hspelled).1]
  exact congrArg (Except.map _) hplain

/-- A payload stands for a text with blanks in it. -/
def Blanked (payload : String) : Prop :=
  ∃ text, Percent.decode payload = .ok text ∧ Text.anyBlank text = true

/-- A payload fails for being blank, or is decoded with a finding about blanks. -/
def ReportsBlanks (fields : Fields) (payload : String) : Prop :=
  (∃ e, decode fields payload = .error e ∧ e.kind = .whitespaceDetected) ∨
    ∃ bytes found, decode fields payload = .ok (bytes, found) ∧
      ∃ v ∈ found, .bindings_3_4_4_1_b ∈ v.clauses

/-- The text of a payload that stands for one is blank if the payload is empty, or if it holds
blanks and nothing else. -/
theorem allBlank_iff (payload text : String) (htext : Percent.decode payload = .ok text) :
    Text.allBlank text = true ↔
      payload = "" ∨ Text.anyBlank text = true ∧ Text.allBlank text = true := by
  constructor
  · intro hall
    cases hany : Text.anyBlank text with
    | true => exact Or.inr ⟨rfl, hall⟩
    | false =>
        rw [Text.eq_empty_of_allBlank text hall hany] at htext
        exact Or.inl ((Percent.decode_eq_empty_iff payload).mp htext)
  · rintro (rfl | ⟨-, hall⟩)
    · have hempty := (Percent.decode_eq_empty_iff "").mpr rfl
      rw [Except.ok.inj (htext.symm.trans hempty)]
      rfl
    · exact hall

/-- A payload whose text is not reached fails, and not for being blank. -/
theorem decode_of_no_text (fields : Fields) (payload : String)
    (h : ¬ (checkEncoding fields = .ok () ∧ ∃ text, Percent.decode payload = .ok text)) :
    ∃ e, decode fields payload = .error e ∧ e.kind ≠ .whitespaceDetected := by
  cases hencoding : checkEncoding fields with
  | error e =>
      refine ⟨e, decode_of_checkEncoding fields payload e hencoding, ?_⟩
      -- The check of the encoding has failures of its own.
      obtain ⟨_, -, ⟨_, -, rfl⟩ | ⟨_, -, -, rfl⟩⟩ :=
        (checkEncoding_eq_error_iff fields e).mp hencoding
      · simp only [ne_eq, reduceCtorEq, not_false_eq_true]
      · simp only [ne_eq, reduceCtorEq, not_false_eq_true]
  | ok _ =>
      cases htext : Percent.decode payload with
      | ok text => exact absurd ⟨hencoding, text, htext⟩ h
      | error f =>
          refine ⟨⟨.malformed, .redirect, f.message⟩, ?_, ?_⟩
          · rw [decode, hencoding]
            simp only [unescaped, htext]
          · simp only [ne_eq, reduceCtorEq, not_false_eq_true]

/-- A payload fails for being blank if the encoding is let pass and the text of the payload is
blank. -/
theorem decode_eq_whitespaceDetected_iff (fields : Fields) (payload : String) :
    (∃ e, decode fields payload = .error e ∧ e.kind = .whitespaceDetected) ↔
      checkEncoding fields = .ok () ∧
        ∃ text, Percent.decode payload = .ok text ∧ Text.allBlank text = true := by
  constructor
  · rintro ⟨e, he, hkind⟩
    by_cases hreached : checkEncoding fields = .ok () ∧ ∃ text, Percent.decode payload = .ok text
    · obtain ⟨hencoding, text, htext⟩ := hreached
      refine ⟨hencoding, text, htext, ?_⟩
      by_contra hall
      rw [decode_of_text fields payload text hencoding htext, if_neg hall] at he
      cases hinflated : inflated (Text.withoutBlanks text) with
      | error e' =>
          rw [hinflated] at he
          obtain rfl := Except.error.inj he
          rcases (inflated_error _ e' hinflated).1 with hother | hother
          · exact absurd (hkind.symm.trans hother) (by decide)
          · exact absurd (hkind.symm.trans hother) (by decide)
      | ok bytes =>
          rw [hinflated] at he
          exact absurd he (by simp only [Except.map, reduceCtorEq, not_false_eq_true])
    · obtain ⟨e', he', hother⟩ := decode_of_no_text fields payload hreached
      obtain rfl := Except.error.inj (he.symm.trans he')
      exact absurd hkind hother
  · rintro ⟨hencoding, text, htext, hall⟩
    exact ⟨_, (decode_of_text fields payload text hencoding htext).trans (if_pos hall), rfl⟩

/-- What is noted of a payload that is decoded are the blanks in its text, if there are any. -/
theorem found_of_decode (fields : Fields) (payload : String) (bytes : List UInt8)
    (found : List Violation) (h : decode fields payload = .ok (bytes, found)) :
    (Blanked payload ∧ found = [blanksFound]) ∨ (¬ Blanked payload ∧ found = []) := by
  by_cases hreached : checkEncoding fields = .ok () ∧ ∃ text, Percent.decode payload = .ok text
  · obtain ⟨hencoding, text, htext⟩ := hreached
    have hblanked : Blanked payload ↔ Text.anyBlank text = true := by
      simp only [Blanked, htext, Except.ok.injEq, exists_eq_left']
    rw [decode_of_text fields payload text hencoding htext] at h
    split at h
    · exact absurd h (by simp only [reduceCtorEq, not_false_eq_true])
    cases hinflated : inflated (Text.withoutBlanks text) with
    | error e =>
        rw [hinflated] at h
        exact absurd h (by simp only [Except.map, reduceCtorEq, not_false_eq_true])
    | ok bytes' =>
        rw [hinflated] at h
        rw [← (Prod.mk.inj (Except.ok.inj h)).2, hblanked]
        by_cases hany : Text.anyBlank text = true
        · exact Or.inl ⟨hany, if_pos hany⟩
        · exact Or.inr ⟨hany, if_neg hany⟩
  · obtain ⟨e, he, -⟩ := decode_of_no_text fields payload hreached
    exact absurd (h.symm.trans he) (by simp only [reduceCtorEq, not_false_eq_true])

/-- There is no blank in an empty payload. -/
theorem not_blanked_empty : ¬ Blanked "" := by
  rintro ⟨text, htext, hany⟩
  rw [← Except.ok.inj (((Percent.decode_eq_empty_iff "").mpr rfl).symm.trans htext)] at hany
  exact absurd hany (by decide)

/-- An empty payload is blank if the encoding is let pass. -/
theorem decode_empty (fields : Fields) (hencoding : checkEncoding fields = .ok ()) :
    decode fields "" = .error ⟨.whitespaceDetected, .redirect, "payload is blank"⟩ :=
  decode_of_text fields "" "" hencoding ((Percent.decode_eq_empty_iff "").mpr rfl)

/-- Where blanks are reported there are some, but for an empty payload whose encoding is let
pass. -/
theorem blanked_of_reportsBlanks_iff (fields : Fields) (payload : String) :
    (ReportsBlanks fields payload → Blanked payload) ↔
      payload ≠ "" ∨ checkEncoding fields ≠ .ok () := by
  constructor
  · intro h
    by_contra! hempty
    rcases hempty with ⟨rfl, hencoding⟩
    exact not_blanked_empty (h (Or.inl ⟨_, decode_empty fields hencoding, rfl⟩))
  · rintro h (hfailed | ⟨bytes, found, hdecode, v, hv, -⟩)
    · obtain ⟨hencoding, text, htext, hall⟩ :=
        (decode_eq_whitespaceDetected_iff fields payload).mp hfailed
      have hne := h.resolve_right (not_not_intro hencoding)
      obtain ⟨hany, -⟩ := ((allBlank_iff payload text htext).mp hall).resolve_left hne
      exact ⟨text, htext, hany⟩
    · rcases found_of_decode fields payload bytes found hdecode with ⟨hblanked, -⟩ | ⟨-, rfl⟩
      · exact hblanked
      · exact absurd hv List.not_mem_nil

/-- A payload fails for being blank if the encoding is let pass and the payload is empty, or
stands for blanks and nothing else. -/
theorem decode_eq_whitespaceDetected_iff_blanked (fields : Fields) (payload : String) :
    (∃ e, decode fields payload = .error e ∧ e.kind = .whitespaceDetected) ↔
      checkEncoding fields = .ok () ∧ (payload = "" ∨ Blanked payload ∧
        ∃ text, Percent.decode payload = .ok text ∧ Text.allBlank text = true) := by
  rw [decode_eq_whitespaceDetected_iff]
  refine and_congr_right fun _ => ⟨?_, ?_⟩
  · rintro ⟨text, htext, hall⟩
    rcases (allBlank_iff payload text htext).mp hall with hnone | ⟨hany, -⟩
    · exact Or.inl hnone
    · exact Or.inr ⟨⟨text, htext, hany⟩, text, htext, hall⟩
  · rintro (rfl | ⟨-, hblank⟩)
    · exact ⟨"", (Percent.decode_eq_empty_iff "").mpr rfl, rfl⟩
    · exact hblank

end Redirect

/-- A response fails as its payload does. -/
theorem Message.decode_of_payloadBytes (check : Option SignatureCheck) (r : Received)
    (kind : MessageKind) (payload : String) (e : DecodeError)
    (hencoding : checkEncoding r = .ok ()) (hpayload : r.payload? = some (kind, payload))
    (h : payloadBytes r payload = .error e) : decode check r = .error e := by
  simp only [decode, hencoding, hpayload, h]

/-- An empty payload is missing on a form, and on no redirect whose encoding is let pass, where it
is blank. Reports of blanks are right except for the same payloads. A payload of a redirect
fails for being blank if it is empty or stands for blanks and nothing else, and what is noted of
one that is decoded is whether there is a blank in its text. -/
theorem Message.empty_payloads (check : Option SignatureCheck) (r : Received)
    (kind : MessageKind) (fields : Fields) (payload : String) :
    (r.payload? = some (kind, "") →
      (r.binding = .redirect →
        ∃ named, r.Names named ∧ ∀ e ∈ named, ¬ Redirect.Unsupported e) →
      ∃ e, decode check r = .error e ∧ (e.kind = .missingPayload ↔ r.binding = .post) ∧
        match r.binding with
        | .post => e.clauses = [.bindings_3_5_4_b]
        | .redirect => e.kind = .whitespaceDetected ∧ e.clauses = [.bindings_3_4_4_1_b]) ∧
    ((Redirect.ReportsBlanks fields payload → Redirect.Blanked payload) ↔
      payload ≠ "" ∨ Redirect.checkEncoding fields ≠ .ok ()) ∧
    ((∃ e, Redirect.decode fields payload = .error e ∧ e.kind = .whitespaceDetected) ↔
      Redirect.checkEncoding fields = .ok () ∧ (payload = "" ∨ Redirect.Blanked payload ∧
        ∃ text, Percent.decode payload = .ok text ∧ Text.allBlank text = true)) ∧
    ∀ bytes found, Redirect.decode fields payload = .ok (bytes, found) →
      (Redirect.Blanked payload ∧ found = [Redirect.blanksFound]) ∨
        (¬ Redirect.Blanked payload ∧ found = []) := by
  refine ⟨?_, Redirect.blanked_of_reportsBlanks_iff fields payload,
    Redirect.decode_eq_whitespaceDetected_iff_blanked fields payload,
    Redirect.found_of_decode fields payload⟩
  intro hpayload hnamed
  cases hbinding : r.binding with
  | post =>
      have hencoding : checkEncoding r = .ok () := by rw [checkEncoding, hbinding]
      have hbytes : payloadBytes r "" =
          .error ⟨.missingPayload, .post, "payload form control is empty"⟩ := by
        rw [payloadBytes, hbinding, Post.decode_empty]
        rfl
      exact ⟨_, decode_of_payloadBytes check r kind "" _ hencoding hpayload hbytes,
        iff_of_true rfl rfl, rfl⟩
  | redirect =>
      obtain ⟨named, hnames, hpass⟩ := hnamed hbinding
      have hfields := Redirect.checkEncoding_of_not_unsupported hnames hpass
      have hencoding : checkEncoding r = .ok () := by
        rw [checkEncoding, hbinding]
        exact hfields
      have hbytes : payloadBytes r "" =
          .error ⟨.whitespaceDetected, .redirect, "payload is blank"⟩ := by
        rw [payloadBytes, hbinding]
        exact Redirect.decode_empty r.fields hfields
      refine ⟨_, decode_of_payloadBytes check r kind "" _ hencoding hpayload hbytes, ?_, rfl, rfl⟩
      simp only [reduceCtorEq]

/-- An empty payload in a form and in a query, the second one with the known encoding named, and
a payload in a query that is nothing but an escaped space. -/
theorem Message.empty_payloads_threeResponses :
    (∃ e, decode none ⟨.post, 200, [("SAMLRequest", "")], false⟩ = .error e ∧
      e.kind = .missingPayload) ∧
    (∃ e, decode none ⟨.redirect, 302, [("SAMLEncoding", Percent.encode Saml.deflateEncoding),
        ("SAMLResponse", "")], false⟩ = .error e ∧ e.kind = .whitespaceDetected) ∧
    Redirect.Blanked "%20" := by
  refine ⟨?_, ?_, ?_⟩
  · obtain ⟨e, he, hkind, -⟩ :=
      (empty_payloads none ⟨.post, 200, [("SAMLRequest", "")], false⟩ .request [] "").1 rfl
        fun h => absurd h (by decide)
    exact ⟨e, he, hkind.mpr rfl⟩
  · obtain ⟨e, he, -, hkind, -⟩ := (empty_payloads none
      ⟨.redirect, 302, [("SAMLEncoding", Percent.encode Saml.deflateEncoding),
        ("SAMLResponse", "")], false⟩ .response [] "").1 rfl fun _ =>
      ⟨some Saml.deflateEncoding, ⟨_, rfl, Percent.decode_encode _⟩,
        fun e he hun => hun.1 (Option.some.inj he).symm⟩
    exact ⟨e, he, hkind⟩
  · have hblank := Redirect.decode_of_text [] "%20" " " rfl (by decide +kernel)
    rw [if_pos (by decide)] at hblank
    obtain ⟨-, hreported, -, -⟩ :=
      empty_payloads none ⟨.post, 200, [], false⟩ .response [] "%20"
    exact hreported.mpr (Or.inl (by decide)) (Or.inl ⟨_, hblank, rfl⟩)

/-- An empty payload of a redirect is not reported as missing but for its blanks, of which it has
none. -/
theorem Message.empty_redirect_blamed_for_blanks :
    (∃ e, decode none ⟨.redirect, 302, [("SAMLResponse", "")], false⟩ = .error e ∧
      e.kind ≠ .missingPayload) ∧
    Redirect.ReportsBlanks [("SAMLResponse", "")] "" ∧ ¬ Redirect.Blanked "" := by
  have hfailed := Redirect.decode_empty [("SAMLResponse", "")] rfl
  exact ⟨⟨_, decode_of_payloadBytes none _ .response "" _ rfl rfl hfailed, by decide⟩,
    Or.inl ⟨_, hfailed, rfl⟩, Redirect.not_blanked_empty⟩

end SamlConformance
