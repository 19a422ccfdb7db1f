import SamlConformance.Proofs.Rule.Breaches.Basic
import SamlConformance.Rule.Groups

/-!
# What the Core Rules Can Breach

The clauses for every function of the core group that makes violations. The values of the
common types are looked at in rules of all groups, and they are the reason why the clauses
of a group are not simply those of its sections: a fault in a value breaches the clause
about its type also where another clause demands the value.

What a group may breach is taken from its sections (`RuleGroup.covered`), so that the last
theorem compares clauses that were found in the rules with sections that were declared
apart from them.

## Main definitions

* `Section.commonTypes`: The section about the types of values.
* `RuleGroup.covered`: The clauses within the sections of a group or about types.

## Theorems

* `DataTypes.onlyBreaches`, `Versions.onlyBreaches`, `SignatureReference.onlyBreaches`,
  `Assertion.onlyBreaches`, `AttributeName.onlyBreaches`, `Identifier.onlyBreaches`: The
  clauses of the modules.
* `RuleGroup.core_onlyBreaches`: They lie within the sections of the group.
-/

namespace SamlConformance

open Xml (Element)

/-- The section about the types that values have anywhere in a message. -/
def Section.commonTypes : Section :=
  ⟨.core, [1, 3]⟩

/-- The clauses that count against a section of the group, or are about the types of
values. -/
def RuleGroup.covered (g : RuleGroup) : List Clause :=
  Clause.all.filter fun c => (g.sections ++ [Section.commonTypes]).contains c.toSection

theorem RuleGroup.mem_covered_iff (g : RuleGroup) (c : Clause) :
    c ∈ g.covered ↔ c.toSection ∈ g.sections ∨ c.toSection = .commonTypes := by
  rw [covered, List.mem_filter, List.contains_iff_mem, List.mem_append, List.mem_singleton]
  exact and_iff_right c.mem_all

namespace Values

variable {cs : List Clause}

theorem onlyBreach_breach {type : Clause} {demanding : Option Clause} (message : String)
    (h : type :: demanding.toList ⊆ cs) : OnlyBreach [breach type demanding message] cs := by
  have htype : type ∈ cs := h List.mem_cons_self
  cases demanding with
  | none => exact onlyBreach_of message htype
  | some c =>
      have hdemanding : c ∈ cs := h (List.mem_cons_of_mem type List.mem_cons_self)
      exact (onlyBreach_of message hdemanding).also htype

theorem onlyBreach_textFindings (value : String) (h : .core_1_3_1_a ∈ cs) :
    OnlyBreach (textFindings value) cs := by
  unfold textFindings
  split
  · exact onlyBreach_nil
  · exact onlyBreach_of _ h

theorem onlyBreach_uriFindings (value : Option String) {demanding : Option Clause}
    (h : .core_1_3_2_a :: demanding.toList ⊆ cs) :
    OnlyBreach (uriFindings value demanding) cs := by
  unfold uriFindings
  simp only
  split
  · exact onlyBreach_nil
  · exact onlyBreach_breach _ h

theorem onlyBreach_timeFindings (value : String) {demanding : Option Clause}
    (h : .core_1_3_3_a :: demanding.toList ⊆ cs) :
    OnlyBreach (timeFindings value demanding) cs := by
  unfold timeFindings
  split
  · exact onlyBreach_nil
  · split
    · exact onlyBreach_breach _ h
    · exact onlyBreach_breach _ h

end Values

namespace DataTypes

/-- The clauses about types. -/
def breached : List Clause :=
  [.core_1_3_1_a, .core_1_3_2_a, .core_1_3_3_a, .core_1_3_4_a]

/-- Those of them that a single value can breach. -/
def breachedByValues : List Clause :=
  [.core_1_3_1_a, .core_1_3_2_a, .core_1_3_3_a]

theorem onlyBreach_typedFindings (e : Element) :
    OnlyBreach (typedFindings e) breachedByValues := by
  unfold typedFindings
  split
  · exact onlyBreach_nil
  split
  · exact Values.onlyBreach_textFindings _ (by decide)
  split
  · exact Values.onlyBreach_uriFindings _ (by decide)
  split
  · exact Values.onlyBreach_timeFindings _ (by decide)
  · exact onlyBreach_nil

theorem onlyBreach_timeFindings (e : Element) (name : String) :
    OnlyBreach (timeFindings e name) breachedByValues := by
  unfold timeFindings
  split
  · exact onlyBreach_nil
  · exact Values.onlyBreach_timeFindings _ (by decide)

theorem onlyBreach_timesFindings (e : Element) :
    OnlyBreach (timesFindings e) breachedByValues := by
  refine onlyBreach_append (onlyBreach_flatMap _ (onlyBreach_timeFindings e)) ?_
  split
  · exact onlyBreach_nil
  · exact onlyBreach_timeFindings e "IssueInstant"

theorem onlyBreaches : rule.OnlyBreaches breached := by
  intro r
  refine Outcome.onlyBreach_report (onlyBreach_append (onlyBreach_append ?_ ?_) ?_)
  · exact (onlyBreach_flatMap _ onlyBreach_typedFindings).mono (by decide)
  · exact (onlyBreach_flatMap _ onlyBreach_timesFindings).mono (by decide)
  · exact onlyBreach_map _ fun _ => onlyBreach_of _ (by decide)

end DataTypes

namespace Versions

/-- The clauses about versions. -/
def breached : List Clause :=
  [.core_4_1_2_a, .core_4_2_a]

theorem onlyBreach_statedVersion (r : Reply) :
    OnlyBreach (statedVersion r).violations breached := by
  unfold statedVersion
  split
  · exact Outcome.onlyBreach_clean
  split
  · exact Outcome.onlyBreach_clean
  · exact Outcome.onlyBreach_report ((onlyBreach_of _ (by decide)).shownAt _)

theorem onlyBreach_namespaceVersion (r : Reply) :
    OnlyBreach (namespaceVersion r).violations breached := by
  unfold namespaceVersion
  split
  · exact Outcome.onlyBreach_clean
  · exact Outcome.onlyBreach_report ((onlyBreach_of _ (by decide)).shownAt _)

theorem onlyBreaches : ∀ rule ∈ rules, rule.OnlyBreaches breached :=
  List.forall_mem_cons.mpr
    ⟨onlyBreach_statedVersion, List.forall_mem_singleton.mpr onlyBreach_namespaceVersion⟩

end Versions

namespace SignatureReference

/-- The clause about references. -/
def breached : List Clause :=
  [.core_5_4_2_a]

theorem onlyBreach_findings (signed signature : Element) :
    OnlyBreach (findings signed signature) breached := by
  unfold findings
  split
  · split
    · exact onlyBreach_of _ (by decide)
    split
    · exact onlyBreach_nil
    · exact OnlyBreach.shownAt (onlyBreach_of _ (by decide)) signature
  · exact onlyBreach_of _ (by decide)

theorem onlyBreaches : rule.OnlyBreaches breached := by
  intro r
  refine Outcome.onlyBreach_report (onlyBreach_flatMap _ ?_)
  intro e
  exact onlyBreach_flatMap _ (onlyBreach_findings e)

end SignatureReference

namespace Assertion

/-- The clauses about assertions, their conditions and their statements. An assertion of
another version also breaches the clause about versions, and one with a faulty time of
issue the clause about times. -/
def breached : List Clause :=
  [.core_2_3_3_a, .core_2_3_3_b, .core_2_3_3_c, .core_2_3_3_d, .core_2_3_3_e, .core_4_1_2_a,
    .core_1_3_3_a, .core_2_5_1_2_a, .core_2_5_1_b, .core_2_5_1_c, .core_2_7_2_a, .core_2_7_3_a]

theorem onlyBreach_contentOf (assertion : Element) :
    OnlyBreach (contentOf assertion).violations breached := by
  unfold contentOf
  simp only
  split
  · exact Outcome.onlyBreach_fail ((onlyBreach_of _ (by decide)).shownAt assertion)
  · exact Outcome.onlyBreach_failIf _ ((onlyBreach_of _ (by decide)).shownAt assertion)

theorem onlyBreach_structureOf (assertion : Element) :
    OnlyBreach (structureOf assertion).violations breached := by
  unfold structureOf
  simp only
  split
  · exact Outcome.onlyBreach_fail
      (((onlyBreach_of _ (by decide)).also (by decide)).shownAt assertion)
  split
  · exact Outcome.onlyBreach_fail ((onlyBreach_of _ (by decide)).shownAt assertion)
  split
  · exact Outcome.onlyBreach_fail ((onlyBreach_of _ (by decide)).shownAt assertion)
  · exact Outcome.onlyBreach_andThen
      (Outcome.onlyBreach_report (Values.onlyBreach_timeFindings _ (by decide)))
      (onlyBreach_contentOf assertion)

theorem onlyBreach_period? (conditions : Element) :
    OnlyBreach (period? conditions).toList breached := by
  unfold period?
  split
  · split
    · exact onlyBreach_nil
    · exact OnlyBreach.shownAt (onlyBreach_of _ (by decide)) conditions
  · exact onlyBreach_nil

theorem onlyBreach_repeated? (conditions : Element) (name : String) {c : Clause}
    (hc : c ∈ breached) : OnlyBreach (repeated? conditions name c).toList breached := by
  unfold repeated?
  split
  · exact OnlyBreach.shownAt (onlyBreach_of _ hc) conditions
  · exact onlyBreach_nil

theorem onlyBreach_conditionsFault? (conditions : Element) :
    OnlyBreach (conditionsFault? conditions).toList breached :=
  onlyBreach_or (onlyBreach_period? conditions)
    (onlyBreach_or (onlyBreach_repeated? conditions _ (by decide))
      (onlyBreach_repeated? conditions _ (by decide)))

theorem onlyBreach_statementsFault? (assertion : Element) :
    OnlyBreach (statementsFault? assertion).toList breached := by
  unfold statementsFault?
  split
  · exact onlyBreach_nil
  split
  · exact OnlyBreach.shownAt (onlyBreach_of _ (by decide)) assertion
  split
  · exact OnlyBreach.shownAt (onlyBreach_of _ (by decide)) assertion
  · exact onlyBreach_nil

theorem onlyBreaches : ∀ rule ∈ rules, rule.OnlyBreaches breached := by
  refine List.forall_mem_cons.mpr ⟨?_, List.forall_mem_cons.mpr
    ⟨?_, List.forall_mem_singleton.mpr ?_⟩⟩
  · intro r
    refine Outcome.onlyBreach_all (List.forall_mem_map.mpr ?_)
    intro assertion _
    exact onlyBreach_structureOf assertion
  · intro r
    exact Outcome.onlyBreach_ofFailure (onlyBreach_findSome? _ onlyBreach_conditionsFault?)
  · intro r
    exact Outcome.onlyBreach_ofFailure (onlyBreach_findSome? _ onlyBreach_statementsFault?)

end Assertion

namespace AttributeName

/-- The clauses about the names of attributes. -/
def breached : List Clause :=
  [.core_3_3_2_3_a, .core_8_2_2_a, .core_8_2_3_a]

theorem onlyBreach_queryFault? (query : Element) :
    OnlyBreach (queryFault? query).toList breached := by
  unfold queryFault?
  generalize (repeatedValues (_ : List (String × String))).head? = repeated
  cases repeated with
  | none => exact onlyBreach_nil
  | some name => exact OnlyBreach.shownAt (onlyBreach_of _ (by decide)) query

/-- The formats that promise something have a clause each. -/
theorem mem_of_broken? (name format : String) (c : Clause) (h : broken? name format = some c) :
    c ∈ breached := by
  unfold broken? at h
  split at h
  · split at h
    · exact absurd h (by simp only [reduceCtorEq, not_false_eq_true])
    · rw [← Option.some.inj h]
      decide
  split at h
  · split at h
    · exact absurd h (by simp only [reduceCtorEq, not_false_eq_true])
    · rw [← Option.some.inj h]
      decide
  · exact absurd h (by simp only [reduceCtorEq, not_false_eq_true])

theorem onlyBreach_formatFault? (a : Element) : OnlyBreach (formatFault? a).toList breached := by
  unfold formatFault?
  cases a.attribute? "Name" with
  | none => exact onlyBreach_nil
  | some name =>
      cases a.attribute? "NameFormat" with
      | none => exact onlyBreach_nil
      | some format =>
          simp only [Option.bind_eq_bind, Option.bind_some]
          cases hbroken : broken? name format with
          | none => exact onlyBreach_nil
          | some c =>
              exact OnlyBreach.shownAt (onlyBreach_of _ (mem_of_broken? name format c hbroken)) a

theorem onlyBreaches : ∀ rule ∈ rules, rule.OnlyBreaches breached := by
  refine List.forall_mem_cons.mpr ⟨?_, List.forall_mem_singleton.mpr ?_⟩
  · intro r
    exact Outcome.onlyBreach_ofFailure (onlyBreach_findSome? _ onlyBreach_queryFault?)
  · intro r
    exact Outcome.onlyBreach_ofFailure (onlyBreach_findSome? _ onlyBreach_formatFault?)

end AttributeName

namespace Identifier

/-- The clauses about the formats of name identifiers. -/
def breached : List Clause :=
  [.core_8_3_2_a, .core_8_3_6_a, .core_8_3_6_b, .core_8_3_7_a, .core_8_3_7_b, .core_8_3_8_a]

theorem onlyBreach_emailFault? (e : Element) : OnlyBreach (emailFault? e).toList breached := by
  unfold emailFault?
  split
  · exact onlyBreach_nil
  · exact OnlyBreach.shownAt (onlyBreach_of _ (by decide)) e

theorem onlyBreach_entityFault? (e : Element) : OnlyBreach (entityFault? e).toList breached := by
  unfold entityFault?
  split
  · exact OnlyBreach.shownAt (onlyBreach_of _ (by decide)) e
  split
  · exact onlyBreach_of _ (by decide)
  · exact onlyBreach_nil

theorem onlyBreach_lengthFault? (kind : String) {c : Clause} (hc : c ∈ breached) (e : Element) :
    OnlyBreach (lengthFault? kind c e).toList breached := by
  unfold lengthFault?
  split
  · exact OnlyBreach.shownAt (onlyBreach_of _ hc) e
  · exact onlyBreach_nil

theorem onlyBreach_qualifierFault? (entityId : String) (e : Element) :
    OnlyBreach (qualifierFault? entityId e).toList breached := by
  unfold qualifierFault?
  split
  · exact onlyBreach_nil
  split
  · exact onlyBreach_nil
  · exact OnlyBreach.shownAt (onlyBreach_of _ (by decide)) e

/-- The rule about one format breaches what can be breached by one identifier. -/
theorem checkFormat_onlyBreaches (name : String) (format : Saml.NameIdFormat)
    (fault? : Reply → Element → Option Violation)
    (h : ∀ r e, OnlyBreach (fault? r e).toList breached) :
    Rule.OnlyBreaches ⟨name, checkFormat format fault?⟩ breached := by
  intro r
  exact Outcome.onlyBreach_ofFailure (onlyBreach_findSome? _ (h r))

theorem onlyBreaches : ∀ rule ∈ rules, rule.OnlyBreaches breached := by
  refine List.forall_mem_cons.mpr ⟨?_, List.forall_mem_cons.mpr
    ⟨?_, List.forall_mem_cons.mpr ⟨?_, List.forall_mem_singleton.mpr ?_⟩⟩⟩
  · exact checkFormat_onlyBreaches _ _ _ fun _ => onlyBreach_emailFault?
  · exact checkFormat_onlyBreaches _ _ _ fun _ => onlyBreach_entityFault?
  · exact checkFormat_onlyBreaches _ _ _ fun r e =>
      onlyBreach_or (onlyBreach_lengthFault? _ (by decide) e)
        (onlyBreach_qualifierFault? r.metadata.entityId e)
  · exact checkFormat_onlyBreaches _ _ _ fun _ => onlyBreach_lengthFault? _ (by decide)

end Identifier

/-- The clauses that the rules of the core group breach lie within its sections. -/
theorem RuleGroup.core_onlyBreaches : ∀ rule ∈ core.rules, rule.OnlyBreaches core.covered := by
  simp only [core, List.forall_mem_append, List.forall_mem_singleton]
  -- The lists of the modules are compared with the declared sections by evaluation.
  refine ⟨⟨⟨⟨⟨?_, ?_⟩, ?_⟩, ?_⟩, ?_⟩, ?_⟩
  · exact DataTypes.onlyBreaches.mono (by decide +kernel)
  · exact fun rule h => (Versions.onlyBreaches rule h).mono (by decide +kernel)
  · exact SignatureReference.onlyBreaches.mono (by decide +kernel)
  · exact fun rule h => (Assertion.onlyBreaches rule h).mono (by decide +kernel)
  · exact fun rule h => (AttributeName.onlyBreaches rule h).mono (by decide +kernel)
  · exact fun rule h => (Identifier.onlyBreaches rule h).mono (by decide +kernel)

end SamlConformance
