import SamlConformance.Proofs.Rule.Spelling.Bare
import SamlConformance.Rule.Groups

/-!
# The Core Rules Ignore Spelling

For each function that a rule of the core group applies to elements: it gives the same on
elements that are alike, as it stands or without the nodes it shows. Where such a function
is applied to all elements of some list, the lists are alike one by one, and so are the
results.

## Theorems

* `DataTypes.ignoresSpelling`, `Versions.ignoresSpelling`,
  `SignatureReference.ignoresSpelling`, `Assertion.ignoresSpelling`,
  `AttributeName.ignoresSpelling`, `Identifier.ignoresSpelling`: The rules of the modules.
* `RuleGroup.core_ignoresSpelling`: All rules of the group.
-/

namespace SamlConformance

open Xml (Element)

/-- What is said of some element, if there is one, without the node. -/
theorem map_bare_bind_of_alike {x y : Option Element} (h : Option.Rel Element.Alike x y)
    {f g : Element → Option Violation}
    (hf : ∀ a b, a.Alike b → (f a).map Violation.bare = (g b).map Violation.bare) :
    (x.bind f).map Violation.bare = (y.bind g).map Violation.bare := by
  cases h with
  | none => rfl
  | some hab => exact hf _ _ hab

/-- A violation shown at some element, if there is one, without the node. -/
theorem map_bare_shown_of_alike {x y : Option Element} (h : Option.Rel Element.Alike x y)
    (v : Violation) :
    (x.map v.shownAt).map Violation.bare = (y.map v.shownAt).map Violation.bare := by
  cases h with
  | none => rfl
  | some _ => rfl

section

variable {es fs : List Element} (h : List.Forall₂ Element.Alike es fs)

include h

/-- The first fault among elements, without the node. -/
theorem map_bare_findSome?_of_alike {f g : Element → Option Violation}
    (hf : ∀ a b, a.Alike b → (f a).map Violation.bare = (g b).map Violation.bare) :
    (es.findSome? f).map Violation.bare = (fs.findSome? g).map Violation.bare := by
  rw [List.map_findSome?, List.map_findSome?]
  exact Xml.findSome?_eq_of_alike h hf

/-- The findings about elements, without the nodes. -/
theorem map_bare_flatMap_of_alike {f g : Element → List Violation}
    (hf : ∀ a b, a.Alike b → (f a).map Violation.bare = (g b).map Violation.bare) :
    (es.flatMap f).map Violation.bare = (fs.flatMap g).map Violation.bare := by
  rw [List.map_flatMap, List.map_flatMap]
  exact Xml.flatMap_eq_of_alike h hf

end

namespace DataTypes

theorem typedFindings_alike (a b : Element) (h : a.Alike b) :
    typedFindings a = typedFindings b := by
  rw [typedFindings, typedFindings, h.attributeIn?, h.text]

theorem timesFindings_alike (a b : Element) (h : a.Alike b) :
    timesFindings a = timesFindings b := by
  have htime : timeFindings a = timeFindings b := by
    funext name
    rw [timeFindings, timeFindings, h.attribute?]
  rw [timesFindings, timesFindings, h.is, htime]

theorem ids_alike (a b : Element) (h : a.Alike b) : ids a = ids b := by
  rw [ids, ids]
  exact Xml.filterMap_eq_of_alike h.self fun _ _ he => he.attribute? "ID"

/-- Values are looked at where they stand, and nothing else is shown of them. -/
theorem ignoresSpelling : rule.IgnoresSpelling := by
  intro r r' h
  have htyped := Xml.flatMap_eq_of_alike h.root.self typedFindings_alike
  have htimes := Xml.flatMap_eq_of_alike h.root.descendants timesFindings_alike
  have hids := ids_alike r.root r'.root h.root
  simp only [rule, check, idFindings, htyped, htimes, hids]

end DataTypes

namespace Versions

theorem ignoresSpelling : ∀ rule ∈ rules, rule.IgnoresSpelling := by
  refine List.forall_mem_cons.mpr ⟨?_, List.forall_mem_singleton.mpr ?_⟩
  · intro r r' h
    simp only [statedVersion, h.root.attribute?]
    cases r'.root.attribute? "Version" with
    | none => rfl
    | some version =>
        simp only []
        split <;> rfl
  · intro r r' h
    have houtdated : (outdated? r.root).isNone = (outdated? r'.root).isNone := by
      rw [← Option.not_isSome, ← Option.not_isSome]
      exact congrArg not (Xml.isSome_eq_of_alike
        (Xml.find?_alike h.root.self fun a b hab => by rw [hab.uri]))
    simp only [namespaceVersion, h.root.uri, houtdated]
    split <;> rfl

end Versions

namespace SignatureReference

theorem findings_alike (signed signed' signature signature' : Element)
    (hsigned : signed.Alike signed') (hsignature : signature.Alike signature') :
    (findings signed signature).map Violation.bare =
      (findings signed' signature').map Violation.bare := by
  have hreferences := hsignature.descendantsNamed Saml.signatureNs "Reference"
  have hto : referenceTo signed = referenceTo signed' := by
    rw [referenceTo, referenceTo, hsigned.attribute?]
  unfold findings
  rw [hto]
  generalize signature.descendantsNamed Saml.signatureNs "Reference" = es at hreferences
  generalize signature'.descendantsNamed Saml.signatureNs "Reference" = fs at hreferences
  -- A single reference is looked at; of more of them only the number counts.
  cases hreferences with
  | nil => rfl
  | cons hreference hrest =>
      cases hrest with
      | nil =>
          simp only [hreference.attribute?]
          split
          · rfl
          · split <;> rfl
      | cons _ hmore =>
          simp only [List.length_cons, hmore.length_eq]

theorem ignoresSpelling : rule.IgnoresSpelling := by
  intro r r' h
  simp only [rule, check, Outcome.bare_report]
  refine congrArg Outcome.report (map_bare_flatMap_of_alike h.root.self ?_)
  intro a b hab
  refine map_bare_flatMap_of_alike (hab.childrenNamed Saml.signatureNs "Signature") ?_
  intro s s' hs
  exact findings_alike a b s s' hab hs

end SignatureReference

namespace Assertion

theorem has_alike (a b : Element) (h : a.Alike b) : has a = has b := by
  funext name
  rw [has, has, h.hasChild]

theorem hasSubject_alike (a b : Element) (h : a.Alike b) :
    Saml.hasSubject a = Saml.hasSubject b := by
  rw [Saml.hasSubject, Saml.hasSubject, h.hasChild]

theorem contentOf_alike (a b : Element) (h : a.Alike b) :
    (contentOf a).bare = (contentOf b).bare := by
  have hissuers : (Saml.issuers a).length = (Saml.issuers b).length :=
    (h.childrenNamed Saml.assertionNs "Issuer").length_eq
  simp only [contentOf, hasStatement, hissuers, has_alike a b h, hasSubject_alike a b h]
  split
  · rfl
  · rw [Outcome.bare_failIf, Outcome.bare_failIf]
    rfl

theorem structureOf_alike (a b : Element) (h : a.Alike b) :
    (structureOf a).bare = (structureOf b).bare := by
  simp only [structureOf, h.attribute?]
  split
  · rfl
  · split
    · rfl
    · split
      · rfl
      · rw [Outcome.bare_andThen, Outcome.bare_andThen, contentOf_alike a b h]

theorem period?_alike (a b : Element) (h : a.Alike b) :
    (period? a).map Violation.bare = (period? b).map Violation.bare := by
  have hinstant : ∀ name, instant? a name = instant? b name := by
    intro name
    rw [instant?, instant?, h.attribute?]
  rw [period?, period?, hinstant, hinstant]
  -- Only conditions that state both ends of a period can be at fault.
  rcases instant? b "NotBefore" with _ | start
  · rfl
  rcases instant? b "NotOnOrAfter" with _ | finish
  · rfl
  by_cases hbefore : start.isBefore finish = true
  · simp only [if_pos hbefore]
  · simp only [if_neg hbefore]
    rfl

theorem repeated?_alike (a b : Element) (h : a.Alike b) (name : String) (c : Clause) :
    (repeated? a name c).map Violation.bare = (repeated? b name c).map Violation.bare := by
  simp only [repeated?, (h.childrenNamed Saml.assertionNs name).length_eq]
  split <;> rfl

theorem conditionsFault?_alike (a b : Element) (h : a.Alike b) :
    (conditionsFault? a).map Violation.bare = (conditionsFault? b).map Violation.bare := by
  simp only [conditionsFault?, Option.map_or, period?_alike a b h, repeated?_alike a b h]

theorem statementsFault?_alike (a b : Element) (h : a.Alike b) :
    (statementsFault? a).map Violation.bare = (statementsFault? b).map Violation.bare := by
  simp only [statementsFault?, has_alike a b h, hasSubject_alike a b h]
  split
  · rfl
  · split
    · rfl
    · split <;> rfl

theorem ignoresSpelling : ∀ rule ∈ rules, rule.IgnoresSpelling := by
  refine List.forall_mem_cons.mpr ⟨?_, List.forall_mem_cons.mpr
    ⟨?_, List.forall_mem_singleton.mpr ?_⟩⟩
  · intro r r' h
    simp only [checkStructure, Outcome.bare_all, List.map_map]
    exact congrArg Outcome.all (Xml.map_eq_of_alike
      (h.root.descendantsNamed Saml.assertionNs "Assertion") structureOf_alike)
  · intro r r' h
    exact congrArg Outcome.ofFailure (map_bare_findSome?_of_alike
      (h.root.descendantsNamed Saml.assertionNs "Conditions") conditionsFault?_alike)
  · intro r r' h
    exact congrArg Outcome.ofFailure (map_bare_findSome?_of_alike
      (h.root.descendantsNamed Saml.assertionNs "Assertion") statementsFault?_alike)

end Assertion

namespace AttributeName

theorem queryFault?_alike (a b : Element) (h : a.Alike b) :
    (queryFault? a).map Violation.bare = (queryFault? b).map Violation.bare := by
  have hidentity : ∀ c d : Element, c.Alike d → identity c = identity d := by
    intro c d hcd
    simp only [identity, hcd.attribute?]
  have hnames := Xml.map_eq_of_alike (h.childrenNamed Saml.assertionNs "Attribute") hidentity
  rw [queryFault?, queryFault?, hnames, Option.map_map, Option.map_map]
  rfl

theorem formatFault?_alike (a b : Element) (h : a.Alike b) :
    (formatFault? a).map Violation.bare = (formatFault? b).map Violation.bare := by
  simp only [formatFault?, h.attribute?]
  -- The format is compared with the name, so both have to be there for a fault.
  cases b.attribute? "Name" with
  | none => rfl
  | some name =>
      cases b.attribute? "NameFormat" with
      | none => rfl
      | some format =>
          cases hbroken : broken? name format with
          | none => simp only [Option.bind_eq_bind, Option.bind_some, hbroken, Option.bind_none]
          | some clause =>
              simp only [Option.bind_eq_bind, Option.bind_some, hbroken]
              rfl

theorem ignoresSpelling : ∀ rule ∈ rules, rule.IgnoresSpelling := by
  refine List.forall_mem_cons.mpr ⟨?_, List.forall_mem_singleton.mpr ?_⟩
  · intro r r' h
    exact congrArg Outcome.ofFailure (map_bare_findSome?_of_alike
      (Xml.filter_alike h.root.self fun _ _ he => he.is _ _) queryFault?_alike)
  · intro r r' h
    exact congrArg Outcome.ofFailure (map_bare_findSome?_of_alike
      (h.root.descendantsNamed Saml.assertionNs "Attribute") formatFault?_alike)

end AttributeName

namespace Identifier

theorem emailFault?_alike (a b : Element) (h : a.Alike b) :
    (emailFault? a).map Violation.bare = (emailFault? b).map Violation.bare := by
  simp only [emailFault?, h.text, h.localName]
  split <;> rfl

theorem entityFault?_alike (a b : Element) (h : a.Alike b) :
    (entityFault? a).map Violation.bare = (entityFault? b).map Violation.bare := by
  simp only [entityFault?, h.text, h.attribute?]
  split
  · rfl
  · split <;> rfl

theorem lengthFault?_alike (kind : String) (c : Clause) (a b : Element) (h : a.Alike b) :
    (lengthFault? kind c a).map Violation.bare = (lengthFault? kind c b).map Violation.bare := by
  simp only [lengthFault?, h.text]
  split <;> rfl

theorem qualifierFault?_alike (entityId : String) (a b : Element) (h : a.Alike b) :
    (qualifierFault? entityId a).map Violation.bare =
      (qualifierFault? entityId b).map Violation.bare := by
  simp only [qualifierFault?, h.attribute?]
  split
  · rfl
  · split <;> rfl

/-- The rule about one format ignores spelling if what it looks for in identifiers does. -/
theorem checkFormat_ignoresSpelling (name : String) (format : Saml.NameIdFormat)
    (fault? : Reply → Element → Option Violation)
    (hf : ∀ r r' : Reply, r.Alike r' → ∀ a b, a.Alike b →
      (fault? r a).map Violation.bare = (fault? r' b).map Violation.bare) :
    Rule.IgnoresSpelling ⟨name, checkFormat format fault?⟩ := by
  intro r r' h
  refine congrArg Outcome.ofFailure (map_bare_findSome?_of_alike ?_ (hf r r' h))
  exact Xml.filter_alike h.root.self fun _ _ he => by rw [he.attribute?]

theorem ignoresSpelling : ∀ rule ∈ rules, rule.IgnoresSpelling := by
  refine List.forall_mem_cons.mpr ⟨?_, List.forall_mem_cons.mpr
    ⟨?_, List.forall_mem_cons.mpr ⟨?_, List.forall_mem_singleton.mpr ?_⟩⟩⟩
  · exact checkFormat_ignoresSpelling _ _ _ fun _ _ _ => emailFault?_alike
  · exact checkFormat_ignoresSpelling _ _ _ fun _ _ _ => entityFault?_alike
  · refine checkFormat_ignoresSpelling _ _ _ ?_
    intro r r' h a b hab
    rw [Option.map_or, Option.map_or, lengthFault?_alike _ _ a b hab, h.metadata,
      qualifierFault?_alike _ a b hab]
  · exact checkFormat_ignoresSpelling _ _ _ fun _ _ _ => lengthFault?_alike _ _

end Identifier

/-- All rules of the core group ignore spelling. -/
theorem RuleGroup.core_ignoresSpelling : ∀ rule ∈ core.rules, rule.IgnoresSpelling := by
  simp only [core, List.forall_mem_append, List.forall_mem_singleton]
  exact ⟨⟨⟨⟨⟨DataTypes.ignoresSpelling, Versions.ignoresSpelling⟩,
    SignatureReference.ignoresSpelling⟩, Assertion.ignoresSpelling⟩,
    AttributeName.ignoresSpelling⟩, Identifier.ignoresSpelling⟩

end SamlConformance
