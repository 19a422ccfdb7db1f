import SamlConformance.Proofs.Message.Decoding
import SamlConformance.Rule.DataTypes
import SamlConformance.Rule.SignatureReference

/-!
# Signed Elements

A signature inside a document protects the element it stands in only if its reference
leads there. Two rules see to that together: identifiers must be unique, and the
reference must name the identifier of the element around the signature. Where both have
nothing to say, the lookup of the referenced identifier ends at that element and at no
other.

There is one exception. An element without an identifier is compared as if it had an
empty one, so that a bare number sign passes as the reference to it, although there is
no identifier that it could refer to (`silent_without_identifier`).

## Theorems

* `DataTypes.idFindings_eq_nil_iff`: Identifiers are unique if the rule is silent.
* `index_eq_of_identifier_eq`: Then an identifier stands at one place of the document.
* `withId?_eq_some`: Then a lookup ends at that place.
* `SignatureReference.findings_eq_nil_iff`: What the reference of a signature must be.
* `signed_element_of_silent`: References of signatures lead to the elements around them.
-/

namespace SamlConformance

open Xml (Element)

/-- Nothing is found about identifiers if and only if all are different. -/
theorem DataTypes.idFindings_eq_nil_iff (root : Element) :
    idFindings root = [] ↔ (ids root).Nodup := by
  rw [idFindings, List.map_eq_nil_iff, repeatedValues_eq_nil_iff]

section

variable (root : Element) (id : String)

/-- Where identifiers are different, no two places have the same one. -/
theorem index_eq_of_identifier_eq (hids : (DataTypes.ids root).Nodup) (i j : Nat)
    (p q : Element) (hp : root.self[i]? = some p) (hq : root.self[j]? = some q)
    (hpid : p.attribute? "ID" = some id) (hqid : q.attribute? "ID" = some id) : i = j := by
  rw [DataTypes.ids, List.Nodup, List.pairwise_filterMap, List.pairwise_iff_getElem] at hids
  obtain ⟨hi, rfl⟩ := List.getElem?_eq_some_iff.mp hp
  obtain ⟨hj, rfl⟩ := List.getElem?_eq_some_iff.mp hq
  rcases Nat.lt_trichotomy i j with hlt | heq | hgt
  · exact absurd rfl (hids i j hi hj hlt id hpid id hqid)
  · exact heq
  · exact absurd rfl (hids j i hj hi hgt id hqid id hpid)

/-- Where identifiers are different, looking one up gives the element that has it. -/
theorem withId?_eq_some (hids : (DataTypes.ids root).Nodup) (i : Nat) (p : Element)
    (hp : root.self[i]? = some p) (hpid : p.attribute? "ID" = some id) :
    root.withId? id = some p := by
  obtain ⟨hi, hpi⟩ := List.getElem?_eq_some_iff.mp hp
  refine List.find?_eq_some_iff_getElem.mpr ⟨beq_iff_eq.mpr hpid, i, hi, hpi, ?_⟩
  intro j hji
  have hj : j < root.self.length := Nat.lt_trans hji hi
  cases hmatch : root.self[j].attribute? "ID" == some id with
  | false => rfl
  | true =>
      exact absurd (index_eq_of_identifier_eq root id hids j i _ p
        (List.getElem?_eq_getElem hj) hp (beq_iff_eq.mp hmatch) hpid) (Nat.ne_of_lt hji)

end

/-- A signature passes if it has one reference, and that is to the signed element. -/
theorem SignatureReference.findings_eq_nil_iff (signed signature : Element) :
    findings signed signature = [] ↔ ∃ reference,
      signature.descendantsNamed Saml.signatureNs "Reference" = [reference] ∧
      reference.attribute? "URI" = some (referenceTo signed) := by
  unfold findings
  constructor
  · intro h
    split at h
    · rename_i reference hreference
      split at h
      · exact absurd h (List.cons_ne_nil _ _)
      · rename_i uri huri
        split at h
        · rename_i heq
          exact ⟨reference, hreference, huri.trans (congrArg some heq)⟩
        · exact absurd h (List.cons_ne_nil _ _)
    · exact absurd h (List.cons_ne_nil _ _)
  · rintro ⟨reference, hreference, huri⟩
    simp only [hreference, huri, if_true]

/-- Where the rules about identifiers and about references of signatures are silent,
every signature has one reference, which is to the element the signature stands in: the
identifier in the reference is the one of that element, stands at no other place of the
document, and leads to that element when it is looked up. An element without an
identifier is referred to as if it had an empty one. -/
theorem signed_element_of_silent (r : Reply) (hdata : (DataTypes.check r).violations = [])
    (hreferences : (SignatureReference.check r).violations = []) (i : Nat) (p s : Element)
    (hp : r.root.self[i]? = some p) (hs : s ∈ SignatureReference.signatures p) :
    ∃ reference id,
      s.descendantsNamed Saml.signatureNs "Reference" = [reference] ∧
      reference.attribute? "URI" = some ("#" ++ id) ∧
      (p.attribute? "ID" = some id ∧
          (∀ j q, r.root.self[j]? = some q → q.attribute? "ID" = some id → j = i) ∧
          r.root.withId? id = some p ∨
        p.attribute? "ID" = none ∧ id = "") := by
  rw [DataTypes.check, Outcome.violations_report, List.append_eq_nil_iff,
    DataTypes.idFindings_eq_nil_iff] at hdata
  rw [SignatureReference.check, Outcome.violations_report, List.flatMap_eq_nil_iff] at hreferences
  have hfindings := List.flatMap_eq_nil_iff.mp (hreferences p (List.mem_of_getElem? hp)) s hs
  obtain ⟨reference, hreference, huri⟩ :=
    (SignatureReference.findings_eq_nil_iff p s).mp hfindings
  refine ⟨reference, (p.attribute? "ID").getD "", hreference, huri, ?_⟩
  cases hid : p.attribute? "ID" with
  | none => exact Or.inr ⟨rfl, rfl⟩
  | some id =>
      refine Or.inl ⟨rfl, ?_, withId?_eq_some r.root id hdata.2 i p hp hid⟩
      intro j q hq hqid
      exact index_eq_of_identifier_eq r.root id hdata.2 j i q p hq hp hqid hid

/-- An element with an identifier, and a signature in it that refers to that. -/
def signedIdentified : String :=
  "<e ID=\"_1\" xmlns:ds=\"http://www.w3.org/2000/09/xmldsig#\"
    ><ds:Signature><ds:Reference URI=\"#_1\"/></ds:Signature></e>"

/-- Looking the identifier up gives the element around the signature. -/
theorem signed_element_of_silent_signedIdentified :
    ∃ root, Xml.parse signedIdentified = .ok root ∧
      (SignatureReference.signatures root).length = 1 ∧ root.withId? "_1" = some root := by
  obtain ⟨root, hparse, hone, hid, hdata, hreferences⟩ : ∃ root,
      Xml.parse signedIdentified = .ok root ∧ (SignatureReference.signatures root).length = 1 ∧
      root.attribute? "ID" = some "_1" ∧
      (DataTypes.check ⟨⟨.posted signedIdentified, .response, signedIdentified, root, []⟩,
        { id := "_0", acsUrl := "https://sp" }, { entityId := "idp" }⟩).violations = [] ∧
      (SignatureReference.check ⟨⟨.posted signedIdentified, .response, signedIdentified, root, []⟩,
        { id := "_0", acsUrl := "https://sp" }, { entityId := "idp" }⟩).violations = [] := by
    refine Xml.exists_parse_eq_ok _ _ ?_
    rw [signedIdentified, Xml.parse_ofList]
    decide +kernel
  refine ⟨root, hparse, hone, ?_⟩
  obtain ⟨s, hs⟩ := List.exists_mem_of_length_eq_add_one hone
  obtain ⟨_, id, _, _, ⟨hown, _, hfound⟩ | ⟨hnone, _⟩⟩ :=
    signed_element_of_silent _ hdata hreferences 0 root s rfl hs
  · rw [Option.some.inj (hid.symm.trans hown)]
    exact hfound
  · exact absurd (hid.symm.trans hnone) (Option.some_ne_none _)

/-- An element without an identifier, and a signature in it whose reference is a bare
number sign. -/
def signedAnonymous : String :=
  "<e xmlns:ds=\"http://www.w3.org/2000/09/xmldsig#\"
    ><ds:Signature><ds:Reference URI=\"#\"/></ds:Signature></e>"

/-- Both rules are silent about this, although the reference leads nowhere. -/
theorem silent_without_identifier :
    ∃ m, Message.decode none (.posted signedAnonymous) = .ok m ∧
      let r : Reply := ⟨m, { id := "_0", acsUrl := "https://sp" }, { entityId := "idp" }⟩
      (DataTypes.check r).violations = [] ∧ (SignatureReference.check r).violations = [] ∧
        ∃ p ∈ r.root.self, ∃ s ∈ SignatureReference.signatures p, p.attribute? "ID" = none := by
  obtain ⟨root, hparse, hsilent⟩ : ∃ root, Xml.parse signedAnonymous = .ok root ∧
      let r : Reply := ⟨⟨.posted signedAnonymous, .response, signedAnonymous, root, []⟩,
        { id := "_0", acsUrl := "https://sp" }, { entityId := "idp" }⟩
      (DataTypes.check r).violations = [] ∧ (SignatureReference.check r).violations = [] ∧
        ∃ p ∈ r.root.self, ∃ s ∈ SignatureReference.signatures p, p.attribute? "ID" = none := by
    refine Xml.exists_parse_eq_ok _ _ ?_
    rw [signedAnonymous, Xml.parse_ofList]
    decide +kernel
  exact ⟨_, Message.decode_posted none signedAnonymous root hparse, hsilent⟩

end SamlConformance
