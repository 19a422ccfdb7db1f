import SamlConformance.Proofs.Message.Decoding
import SamlConformance.Proofs.Rule.Spelling.Core
import SamlConformance.Proofs.Rule.Spelling.Protocol
import SamlConformance.Proofs.Xml.Splitting

/-!
# Verdicts Do Not Depend on Spelling

Who can change the spelling of a document without breaking its signature could try to have
it read in two ways: a comment inside a name is no part of what is signed, and a reader
that takes only the text in front of it reads another name. The rules are safe from this.
Whatever two documents say the same, in whatever prefixes, attribute orders and pieces of
text, each group finds the same defects in both, in the same order and words. Only the
offending nodes are shown as they were written.

That comments and literal text do not count is stated for the text of a document, where
they stand: they are put in place of the characters they stand for, anywhere inside an
element, and either the documents before and after say the same or neither can be read.

## Main definitions

* `Violation.SameVerdict`: Two violations tell of the same defect.
* `Reply.SameVerdicts`: All groups find the same in two replies.

## Theorems

* `Reply.Alike.sameVerdicts`: Replies that are alike have the same verdicts.
* `verdicts_ignore_spelling`: Neither do equivalent documents, nor do comments and literal
  text, make a difference.
-/

namespace SamlConformance

/-- The violations are of the same clauses, with the same explanation and cause. The nodes
that illustrate them may differ. -/
structure Violation.SameVerdict (v v' : Violation) : Prop where
  /-- The same clauses are breached, in the same order. -/
  clauses : v.clauses = v'.clauses
  /-- The explanation is the same. -/
  message : v.message = v'.message
  /-- The cause is the same. -/
  cause : v.cause = v'.cause

theorem Violation.sameVerdict_of_bare (v v' : Violation) (h : v.bare = v'.bare) :
    v.SameVerdict v' := by
  have hclauses : v.bare.clauses = v'.bare.clauses := congrArg clauses h
  have hmessage : v.bare.message = v'.bare.message := congrArg message h
  have hcause : v.bare.cause = v'.bare.cause := congrArg cause h
  exact ⟨hclauses, hmessage, hcause⟩

/-- In both replies each group finds the same, one by one. -/
def Reply.SameVerdicts (r r' : Reply) : Prop :=
  ∀ b, ∀ g ∈ RuleGroup.groups b, List.Forall₂ Violation.SameVerdict (g.run r) (g.run r')

/-- Replies that are alike have the same verdicts. -/
theorem Reply.Alike.sameVerdicts {r r' : Reply} (h : r.Alike r') : r.SameVerdicts r' := by
  intro b g hg
  have hbare := RuleGroup.map_bare_run g (RuleGroup.groups_ignoreSpelling b g hg) r r' h
  rw [← List.forall₂_eq_eq_eq, List.forall₂_map_left_iff, List.forall₂_map_right_iff] at hbare
  exact hbare.imp Violation.sameVerdict_of_bare

/-- Equivalent documents have the same verdicts where all else is the same. In particular,
a comment that is put anywhere inside the text of an element, and literal text that is put
in the place of what it stands for, change no verdict: either both documents are read and
have the same verdicts, or neither is read. -/
theorem verdicts_ignore_spelling :
    (∀ r r' : Reply, r.root.Equivalent r'.root → r.SameBeside r' → r.SameVerdicts r') ∧
      ∀ before raw text written after : List Char, Xml.InContent before → '<' ∉ raw →
        Xml.unescape raw = .ok text → Xml.WrittenAs text written →
        Xml.Together (fun root root' => ∀ r r' : Reply, r.root = root → r'.root = root' →
            r.SameBeside r' → r.SameVerdicts r')
          (Xml.parseChars (before ++ raw ++ after))
          (Xml.parseChars (before ++ written ++ after)) := by
  constructor
  · intro r r' hroot hbeside
    exact Reply.Alike.sameVerdicts ⟨hbeside, Xml.alike_of_equivalent hroot⟩
  · intro before raw text written after hbefore hraw htext hwritten
    have hread := Xml.parseChars_writtenAs before raw text written after hbefore hraw htext hwritten
    refine hread.mono ?_
    rintro root root' halike r r' rfl rfl hbeside
    exact Reply.Alike.sameVerdicts ⟨hbeside, halike⟩

/-- A response under a prefix or under none, with its attributes and with the name of its
issuer in pieces. -/
def issuedBy (nsPrefix : Option String) (attributes : List Xml.Attribute) (name : List Xml.Node) :
    Xml.Element :=
  ⟨⟨⟨some Saml.protocolNs, nsPrefix, "Response"⟩, attributes, [⟨nsPrefix, Saml.protocolNs⟩]⟩,
    [.element ⟨⟨some Saml.assertionNs, none, "Issuer"⟩, [], [⟨none, Saml.assertionNs⟩]⟩ name]⟩

/-- A document that arrives in a form, as the reply to the request `_0`. -/
def replyTo (xml : String) (root : Xml.Element) : Reply :=
  ⟨⟨.posted xml, .response, xml, root, []⟩, { id := "_0", acsUrl := "https://sp" },
    ⟨"idp", [], [], none⟩⟩

theorem sameBeside_replyTo (xml xml' : String) (root root' : Xml.Element) :
    (replyTo xml root).SameBeside (replyTo xml' root') where
  request := rfl
  metadata := rfl
  binding := rfl
  status := rfl
  relayStateGiven := rfl
  kind := rfl
  fields := by
    intro name hname
    have hmiss : (name == Saml.Parameter.response.name) = false := beq_false_of_ne hname
    simp only [replyTo, Received.posted, Fields.get?, List.lookup_cons, hmiss, List.lookup_nil]

/-- A response that is spelled in two ways, and a name with a comment in it, for which the
hypotheses are met. -/
theorem verdicts_ignore_spelling_issuer :
    (replyTo "" (issuedBy (some "p") [⟨⟨none, none, "ID"⟩, "_1"⟩, ⟨⟨none, none, "Version"⟩, "2.0"⟩]
        [.text "idp"])).SameVerdicts
      (replyTo "" (issuedBy none [⟨⟨none, none, "Version"⟩, "2.0"⟩, ⟨⟨none, none, "ID"⟩, "_1"⟩]
        [.text "i", .text "dp"])) ∧
      ∃ root root', Xml.parseChars "<Issuer>idp</Issuer>".toList = .ok root ∧
        Xml.parseChars "<Issuer>i<!-- - -->dp</Issuer>".toList = .ok root' ∧
        (replyTo "<Issuer>idp</Issuer>" root).SameVerdicts
          (replyTo "<Issuer>i<!-- - -->dp</Issuer>" root') := by
  refine ⟨verdicts_ignore_spelling.1 _ _ ?_ (sameBeside_replyTo _ _ _ _), ?_⟩
  · refine .intro rfl rfl ⟨by decide, by decide, ?_⟩ rfl (.cons ?_ .nil)
    · intro uri name value
      exact exists_congr fun a => and_congr (List.Perm.swap _ _ _).mem_iff Iff.rfl
    · exact .intro rfl rfl ⟨by decide, by decide, fun _ _ _ => Iff.rfl⟩ rfl .nil
  · obtain ⟨root, hroot, -⟩ : ∃ root, Xml.parse "<Issuer>idp</Issuer>" = .ok root ∧ True :=
      Xml.exists_parse_eq_ok _ _ (by decide +kernel)
    have htogether := verdicts_ignore_spelling.2 "<Issuer>i".toList [] [] _ "dp</Issuer>".toList
      (by decide +kernel) List.not_mem_nil Xml.unescape_nil (.comment " - ".toList (by decide))
    obtain ⟨root', hroot', hsame⟩ := htogether.exists_ok hroot
    exact ⟨root, root', hroot, hroot', hsame _ _ rfl rfl (sameBeside_replyTo _ _ _ _)⟩

end SamlConformance
