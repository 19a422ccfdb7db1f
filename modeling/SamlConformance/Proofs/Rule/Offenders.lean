import SamlConformance.Proofs.Time.Timeline
import SamlConformance.Rule.Groups
import Mathlib.Data.List.Basic

/-!
# The First Offender

Four rules run through a message one after another: over all assertions below the document
element, over all conditions, over the assertions once more, and over the attribute queries.
Each stops at the first element it objects to, and ends the group with it. What they accept can
therefore be said element by element, without any order, while what they blame depends on the
order of all elements in all four runs.

To have this order in one place, the runs are put behind each other as one list of tasks, each
of which asks whether an element does one duty (`Duty.tasks`). A rule that searches for a fault
is the same as its checks in sequence, and sequences can be cut anywhere, so that the group is
one sequence over this list (`runAll_formRules`). A sequence goes through, or to the first task
that fails (`Outcome.all_map_cases`).

The time of issue of an assertion is the exception. An assertion has to state it, but what it
states is only reported, and the assertion is looked at further; so a report can come from an
assertion that does its duty, and even from the offender.

## Main definitions

* `Assertion.Formed`, `Assertion.Limited`, `Assertion.Attributed`, `Assertion.AsksOnce`: What is
  asked of assertions, of conditions, of assertions once more, and of queries.
* `Assertion.Duty`, `Assertion.Duty.tasks`: The four as one list of tasks.
* `Assertion.WellFormed`: What is asked of assertions in all.
* `Blames`: A fault is shown at an element.

## Theorems

* `Outcome.all_map_cases`: How a sequence of checks ends.
* `Assertion.structureOf_spec`, `Assertion.conditionsFault?_eq_none_iff`,
  `Assertion.statementsFault?_eq_none_iff`, `Assertion.queryFault?_eq_none_iff`: The four checks.
* `Assertion.Duty.failure_outcome_eq_none_iff`, `Assertion.Duty.blames_outcome`: A task fails
  where the duty is not done, and blames the element.
* `Assertion.run_cases`: How the group ends.
* `Assertion.form_judged`: What the group finds.
-/

namespace SamlConformance

open Xml (Element)

namespace Outcome

/-- To fail with the first fault is to look at one thing after another. -/
theorem ofFailure_findSome? {α : Type} (f : α → Option Violation) (xs : List α) :
    ofFailure (xs.findSome? f) = all (xs.map fun x => ofFailure (f x)) := by
  induction xs with
  | nil => rfl
  | cons x xs ih =>
      rw [List.findSome?_cons, List.map_cons]
      cases h : f x with
      | none => exact ih
      | some v => rfl

theorem all_flatMap {α : Type} (f : α → List Outcome) (xs : List α) :
    all (xs.flatMap f) = all (xs.map fun x => all (f x)) := by
  induction xs with
  | nil => rfl
  | cons x xs ih =>
      rw [List.flatMap_cons, all_append, ih]
      rfl

/-- A sequence of checks goes through to its end, or to the first check that fails. -/
theorem all_map_cases {α : Type} (f : α → Outcome) (xs : List α) :
    ((∀ x ∈ xs, (f x).failure = none) ∧
      all (xs.map f) = ⟨xs.flatMap fun x => (f x).findings, none⟩) ∨
    ∃ before x after v, xs = before ++ x :: after ∧ (∀ y ∈ before, (f y).failure = none) ∧
      (f x).failure = some v ∧
      all (xs.map f) = ⟨(before.flatMap fun y => (f y).findings) ++ (f x).findings, some v⟩ := by
  induction xs with
  | nil => exact Or.inl ⟨fun x hx => absurd hx List.not_mem_nil, rfl⟩
  | cons x xs ih =>
      have hall : all ((x :: xs).map f) = (f x).andThen (all (xs.map f)) := rfl
      rw [hall]
      cases hx : (f x).failure with
      | some v =>
          refine Or.inr ⟨[], x, xs, v, rfl, fun y hy => absurd hy List.not_mem_nil, hx, ?_⟩
          have hstop : (f x).andThen (all (xs.map f)) = f x := by rw [andThen, hx]
          rw [hstop, List.flatMap_nil, List.nil_append, ← hx]
      | none =>
          have hgo : ∀ o, (f x).andThen o = ⟨(f x).findings ++ o.findings, o.failure⟩ := by
            intro o
            rw [andThen, hx]
          rw [hgo]
          rcases ih with ⟨hxs, heq⟩ | ⟨before, y, after, v, rfl, hbefore, hy, heq⟩
          · refine Or.inl ⟨List.forall_mem_cons.mpr ⟨hx, hxs⟩, ?_⟩
            rw [heq, List.flatMap_cons]
          · refine Or.inr ⟨x :: before, y, after, v, rfl, List.forall_mem_cons.mpr ⟨hx, hbefore⟩,
              hy, ?_⟩
            rw [heq, List.flatMap_cons, List.append_assoc]

end Outcome

/-- The element has a part of that name, in the namespace of assertions. -/
def Holds (e : Element) (name : String) : Prop :=
  ∃ part, part ∈ e.childrenNamed Saml.assertionNs name

theorem hasChild_iff_holds (e : Element) (name : String) :
    e.hasChild Saml.assertionNs name = true ↔ Holds e name := by
  rw [Element.hasChild, Element.child?, List.find?_isSome]
  simp only [Holds, Element.childrenNamed, List.mem_filter]

/-- A fault is shown at an element. -/
def Blames (fault : Option Violation) (e : Element) : Prop :=
  ∀ v, fault = some v → v.context = some e.toXml

section

variable {e : Element} {a b : Option Violation}

theorem blames_none : Blames none e :=
  fun v h => absurd h.symm (Option.some_ne_none v)

theorem blames_shownAt (v : Violation) : Blames (some (v.shownAt e)) e := by
  intro u hu
  cases hu
  rfl

theorem blames_or (ha : Blames a e) (hb : Blames b e) : Blames (a.or b) e := by
  cases a with
  | none => exact hb
  | some v => exact ha

end

namespace Assertion

/-- An assertion is about somebody, or makes a statement. -/
def HasContent (a : Element) : Prop :=
  Holds a "Subject" ∨ Holds a "Statement" ∨ Holds a "AuthnStatement" ∨
    Holds a "AuthzDecisionStatement" ∨ Holds a "AttributeStatement"

/-- An assertion of the form that the standard lays down, apart from what its time of issue
says. -/
structure Formed (a : Element) : Prop where
  /-- The version is the right one. -/
  version : a.attribute? "Version" = some "2.0"
  /-- There is an identifier. -/
  identified : (a.attribute? "ID").isSome
  /-- There is a time of issue. -/
  dated : (a.attribute? "IssueInstant").isSome
  /-- There is one issuer. -/
  issued : (a.childrenNamed Saml.assertionNs "Issuer").length = 1
  /-- There is some content. -/
  content : HasContent a

/-- Statements about a subject have one. -/
def Attributed (a : Element) : Prop :=
  Holds a "AuthnStatement" ∨ Holds a "AttributeStatement" → Holds a "Subject"

/-- Conditions hold each limit once at most, and end after they begin. -/
structure Limited (c : Element) : Prop where
  /-- They are for one use or say nothing about it. -/
  uses : (c.childrenNamed Saml.assertionNs "OneTimeUse").length ≤ 1
  /-- They restrict proxies once at most. -/
  proxies : (c.childrenNamed Saml.assertionNs "ProxyRestriction").length ≤ 1
  /-- The end is after the beginning, where both are points in time. -/
  period : ∀ start finish, c.attribute? "NotBefore" = some start →
    c.attribute? "NotOnOrAfter" = some finish →
    ∀ a b, Clock.parse? start = some a → Clock.parse? finish = some b → a.moment < b.moment

/-- A query asks for no attribute twice. -/
def AsksOnce (q : Element) : Prop :=
  ((q.childrenNamed Saml.assertionNs "Attribute").map AttributeName.identity).Nodup

/-- The reports about the time of issue of an assertion: one if it is there but unacceptable. -/
def issueReports (a : Element) : List Violation :=
  match a.attribute? "IssueInstant" with
  | none => []
  | some time => Values.timeFindings time (some .core_2_3_3_c)

/-- What elements of a message are looked at for. -/
inductive Duty where
  /-- Assertions are formed. -/
  | form
  /-- Conditions are limited. -/
  | limits
  /-- Statements are about somebody. -/
  | subject
  /-- Queries ask once. -/
  | question
deriving DecidableEq

namespace Duty

/-- All of them, in the order of the rules. -/
def all : List Duty := [form, limits, subject, question]

/-- The elements that have the duty, in document order. -/
def bearers (root : Element) : Duty → List Element
  | form => Saml.assertionsBelow root
  | limits => root.descendantsNamed Saml.assertionNs "Conditions"
  | subject => Saml.assertionsBelow root
  | question => root.self.filter fun e => e.is Saml.protocolNs "AttributeQuery"

/-- The element does its duty. -/
def Met : Duty → Element → Prop
  | form => Formed
  | limits => Limited
  | subject => Attributed
  | question => AsksOnce

/-- What is reported about an element although it does its duty. -/
def reports : Duty → Element → List Violation
  | form => issueReports
  | _ => fun _ => []

/-- The check of an element. -/
def outcome : Duty → Element → Outcome
  | form => structureOf
  | limits => fun c => .ofFailure (conditionsFault? c)
  | subject => fun a => .ofFailure (statementsFault? a)
  | question => fun q => .ofFailure (AttributeName.queryFault? q)

/-- All duties with those that have them, in the order in which they are looked at. -/
def tasks (root : Element) : List (Duty × Element) :=
  all.flatMap fun d => (d.bearers root).map fun e => (d, e)

end Duty

/-- The rules about assertions, their conditions and statements, and about queries. -/
def formRules : List Rule :=
  rules ++ [⟨"attribute_query", AttributeName.checkQueries⟩]

/-- Taken together the rules are one sequence of tasks. -/
theorem runAll_formRules (r : Reply) :
    Rule.runAll formRules r =
      .all ((Duty.tasks r.root).map fun t => t.1.outcome t.2) := by
  have hconditions : checkConditions r = _ := Outcome.ofFailure_findSome? _ _
  have hstatements : checkStatements r = _ := Outcome.ofFailure_findSome? _ _
  have hqueries : AttributeName.checkQueries r = _ := Outcome.ofFailure_findSome? _ _
  rw [Duty.tasks, List.map_flatMap, Outcome.all_flatMap]
  simp only [List.map_map, Rule.runAll, formRules, rules, List.cons_append, List.nil_append,
    List.map_cons, hconditions, hstatements, hqueries]
  rfl

theorem findings_contentOf (a : Element) : (contentOf a).findings = [] := by
  unfold contentOf Outcome.failIf
  simp only
  split_ifs <;> rfl

/-- The part of the check of an assertion that comes last. -/
theorem failure_contentOf_eq_none_iff (a : Element) :
    (contentOf a).failure = none ↔ (a.childrenNamed Saml.assertionNs "Issuer").length = 1 ∧
      HasContent a := by
  have hcontent : (!hasStatement a && !Saml.hasSubject a) = true ↔ ¬ HasContent a := by
    simp only [HasContent, hasStatement, has, Saml.hasSubject, List.any_cons, List.any_nil,
      Bool.or_false, ← hasChild_iff_holds, Bool.and_eq_true, Bool.not_eq_true',
      Bool.or_eq_false_iff, not_or, Bool.not_eq_true]
    tauto
  unfold contentOf Saml.issuers Outcome.failIf
  simp only
  split_ifs with hissuers hnone
  · exact iff_of_false (Option.some_ne_none _) fun h => hissuers h.1
  · exact iff_of_false (Option.some_ne_none _) fun h => hcontent.mp hnone h.2
  · exact iff_of_true rfl ⟨not_not.mp hissuers, not_not.mp (mt hcontent.mpr hnone)⟩

theorem blames_contentOf (a : Element) : Blames (contentOf a).failure a := by
  unfold contentOf Outcome.failIf
  simp only
  split_ifs
  · exact blames_shownAt _
  · exact blames_shownAt _
  · exact blames_none

/-- The check of an assertion that has what comes first. -/
theorem structureOf_of_dated (a : Element) {time : String}
    (hversion : a.attribute? "Version" = some "2.0") (hid : (a.attribute? "ID").isSome)
    (htime : a.attribute? "IssueInstant" = some time) :
    structureOf a = ⟨issueReports a, (contentOf a).failure⟩ := by
  have hpresent : ¬ (a.attribute? "ID").isNone = true := by
    rw [Option.isNone_iff_eq_none]
    exact Option.isSome_iff_ne_none.mp hid
  have hright : ¬ a.attribute? "Version" ≠ some Saml.version := not_not.mpr hversion
  simp only [structureOf, hright, hpresent, if_false, htime, issueReports, Outcome.report,
    Outcome.andThen, findings_contentOf, List.append_nil, Bool.false_eq_true]

/-- The check of an assertion that has not. -/
theorem structureOf_of_undated (a : Element) (h : ¬ (a.attribute? "Version" = some "2.0" ∧
    (a.attribute? "ID").isSome ∧ (a.attribute? "IssueInstant").isSome)) :
    ∃ v : Violation, structureOf a = .fail (v.shownAt a) := by
  unfold structureOf
  simp only
  split_ifs with hversion hid
  · exact ⟨_, rfl⟩
  · exact ⟨_, rfl⟩
  · cases htime : a.attribute? "IssueInstant" with
    | none => exact ⟨_, rfl⟩
    | some time =>
        refine absurd ⟨not_not.mp hversion, ?_, by rw [htime]; rfl⟩ h
        rw [Option.isSome_iff_ne_none, ne_eq, ← Option.isNone_iff_eq_none]
        exact hid

/-- What the check of an assertion comes to. Only the time of issue is reported, and it is where
the assertion is formed; every other fault ends the check, and is shown at the assertion. -/
theorem structureOf_spec (a : Element) :
    ((structureOf a).failure = none ↔ Formed a) ∧ Blames (structureOf a).failure a ∧
      ((structureOf a).findings = [] ∨ (structureOf a).findings = issueReports a) ∧
      (Formed a → (structureOf a).findings = issueReports a) := by
  by_cases hhead : a.attribute? "Version" = some "2.0" ∧ (a.attribute? "ID").isSome ∧
      (a.attribute? "IssueInstant").isSome
  · obtain ⟨hversion, hid, htime⟩ := hhead
    obtain ⟨time, hsome⟩ := Option.isSome_iff_exists.mp htime
    rw [structureOf_of_dated a hversion hid hsome]
    refine ⟨?_, blames_contentOf a, Or.inr rfl, fun _ => rfl⟩
    rw [failure_contentOf_eq_none_iff]
    exact ⟨fun ⟨hissuer, hcontent⟩ => ⟨hversion, hid, htime, hissuer, hcontent⟩,
      fun hformed => ⟨hformed.issued, hformed.content⟩⟩
  · have hill : ¬ Formed a := fun hformed =>
      hhead ⟨hformed.version, hformed.identified, hformed.dated⟩
    obtain ⟨v, hv⟩ := structureOf_of_undated a hhead
    rw [hv]
    exact ⟨iff_of_false (Option.some_ne_none _) hill, blames_shownAt v, Or.inl rfl,
      fun hformed => absurd hformed hill⟩

theorem period?_eq_none_iff (c : Element) :
    period? c = none ↔ ∀ start finish, c.attribute? "NotBefore" = some start →
      c.attribute? "NotOnOrAfter" = some finish →
      ∀ a b, Clock.parse? start = some a → Clock.parse? finish = some b → a.moment < b.moment := by
  unfold period? instant?
  cases hstart : c.attribute? "NotBefore" with
  | none => simp
  | some start =>
      cases hfinish : c.attribute? "NotOnOrAfter" with
      | none => simp
      | some finish =>
          simp only [Option.bind_some, Instant.parse?_eq_map]
          cases ha : Clock.parse? start with
          | none => simp [ha]
          | some a =>
              cases hb : Clock.parse? finish with
              | none => simp [hb]
              | some b =>
                  simp [ha, hb, Clock.isBefore_instant_iff ha hb]

theorem blames_period? (c : Element) : Blames (period? c) c := by
  unfold period?
  split
  · split
    · exact blames_none
    · exact blames_shownAt _
  · exact blames_none

theorem repeated?_eq_none_iff (c : Element) (name : String) (clause : Clause) :
    repeated? c name clause = none ↔ (c.childrenNamed Saml.assertionNs name).length ≤ 1 := by
  unfold repeated?
  by_cases h : (c.childrenNamed Saml.assertionNs name).length > 1
  · rw [if_pos h]
    exact iff_of_false (Option.some_ne_none _) (by omega)
  · rw [if_neg h]
    exact iff_of_true rfl (by omega)

theorem blames_repeated? (c : Element) (name : String) (clause : Clause) :
    Blames (repeated? c name clause) c := by
  unfold repeated?
  split
  · exact blames_shownAt _
  · exact blames_none

theorem conditionsFault?_eq_none_iff (c : Element) : conditionsFault? c = none ↔ Limited c := by
  rw [conditionsFault?, Option.or_eq_none_iff, Option.or_eq_none_iff, period?_eq_none_iff,
    repeated?_eq_none_iff, repeated?_eq_none_iff]
  exact ⟨fun ⟨hperiod, huses, hproxies⟩ => ⟨huses, hproxies, hperiod⟩,
    fun h => ⟨h.period, h.uses, h.proxies⟩⟩

theorem statementsFault?_eq_none_iff (a : Element) : statementsFault? a = none ↔ Attributed a := by
  unfold statementsFault? Attributed Saml.hasSubject has
  simp only [← hasChild_iff_holds]
  by_cases hsubject : a.hasChild Saml.assertionNs "Subject" = true
  · rw [if_pos hsubject]
    exact iff_of_true rfl fun _ => hsubject
  rw [if_neg hsubject]
  by_cases hauthn : a.hasChild Saml.assertionNs "AuthnStatement" = true
  · rw [if_pos hauthn]
    exact iff_of_false (Option.some_ne_none _) fun h => hsubject (h (Or.inl hauthn))
  rw [if_neg hauthn]
  by_cases hattribute : a.hasChild Saml.assertionNs "AttributeStatement" = true
  · rw [if_pos hattribute]
    exact iff_of_false (Option.some_ne_none _) fun h => hsubject (h (Or.inr hattribute))
  · rw [if_neg hattribute]
    exact iff_of_true rfl fun h => absurd h (not_or.mpr ⟨hauthn, hattribute⟩)

theorem blames_statementsFault? (a : Element) : Blames (statementsFault? a) a := by
  unfold statementsFault?
  split
  · exact blames_none
  split
  · exact blames_shownAt _
  split
  · exact blames_shownAt _
  · exact blames_none

theorem queryFault?_eq_none_iff (q : Element) :
    AttributeName.queryFault? q = none ↔ AsksOnce q := by
  rw [AttributeName.queryFault?, Option.map_eq_none_iff, List.head?_eq_none_iff,
    repeatedValues_eq_nil_iff, AsksOnce]

theorem blames_queryFault? (q : Element) : Blames (AttributeName.queryFault? q) q := by
  intro v hv
  rcases Option.map_eq_some_iff.mp hv with ⟨_, -, rfl⟩
  rfl

namespace Duty

theorem failure_outcome_eq_none_iff (d : Duty) (e : Element) :
    (d.outcome e).failure = none ↔ d.Met e := by
  cases d with
  | form => exact (structureOf_spec e).1
  | limits => exact conditionsFault?_eq_none_iff e
  | subject => exact statementsFault?_eq_none_iff e
  | question => exact queryFault?_eq_none_iff e

theorem blames_outcome (d : Duty) (e : Element) : Blames (d.outcome e).failure e := by
  cases d with
  | form => exact (structureOf_spec e).2.1
  | limits =>
      exact blames_or (blames_period? e) (blames_or (blames_repeated? e _ _)
        (blames_repeated? e _ _))
  | subject => exact blames_statementsFault? e
  | question => exact blames_queryFault? e

theorem findings_outcome (d : Duty) (e : Element) :
    ((d.outcome e).findings = [] ∨ (d.outcome e).findings = d.reports e) ∧
      (d.Met e → (d.outcome e).findings = d.reports e) := by
  cases d with
  | form => exact (structureOf_spec e).2.2
  | limits => exact ⟨Or.inl rfl, fun _ => rfl⟩
  | subject => exact ⟨Or.inl rfl, fun _ => rfl⟩
  | question => exact ⟨Or.inl rfl, fun _ => rfl⟩

theorem flatMap_findings_of_met {ts : List (Duty × Element)} (h : ∀ t ∈ ts, t.1.Met t.2) :
    (ts.flatMap fun t => (t.1.outcome t.2).findings) = ts.flatMap fun t => t.1.reports t.2 :=
  List.flatMap_congr fun t ht => (findings_outcome t.1 t.2).2 (h t ht)

theorem mem_tasks_iff (root : Element) (d : Duty) (e : Element) :
    (d, e) ∈ tasks root ↔ e ∈ d.bearers root := by
  have hall : d ∈ all := by cases d <;> decide
  simp only [tasks, List.mem_flatMap, List.mem_map, Prod.mk.injEq]
  refine ⟨fun ⟨d', _, e', he', hd, he⟩ => ?_, fun he => ⟨d, hall, e, he, rfl, rfl⟩⟩
  rw [← hd, ← he]
  exact he'

/-- Everything does its duty if the elements of each name do. -/
theorem met_iff (root : Element) :
    (∀ t ∈ tasks root, t.1.Met t.2) ↔
      (∀ a ∈ Saml.assertionsBelow root, Formed a ∧ Attributed a) ∧
      (∀ c ∈ root.descendantsNamed Saml.assertionNs "Conditions", Limited c) ∧
      ∀ q ∈ root.self, q.is Saml.protocolNs "AttributeQuery" = true → AsksOnce q := by
  have htasks : (∀ t ∈ tasks root, t.1.Met t.2) ↔ ∀ d : Duty, ∀ e ∈ d.bearers root, d.Met e := by
    simp only [Prod.forall, mem_tasks_iff]
  rw [htasks]
  constructor
  · intro h
    exact ⟨fun a ha => ⟨h form a ha, h subject a ha⟩, h limits,
      fun q hq hname => h question q (List.mem_filter.mpr ⟨hq, hname⟩)⟩
  · rintro ⟨hassertions, hconditions, hqueries⟩ d
    cases d with
    | form => exact fun a ha => (hassertions a ha).1
    | limits => exact hconditions
    | subject => exact fun a ha => (hassertions a ha).2
    | question =>
        intro q hq
        obtain ⟨hself, hname⟩ := List.mem_filter.mp hq
        exact hqueries q hself hname

/-- Nothing is reported about an assertion that states when it was issued if and only if it
states so in universal time. -/
theorem issueReports_eq_nil_iff {a : Element} (h : (a.attribute? "IssueInstant").isSome) :
    issueReports a = [] ↔
      ∃ time, a.attribute? "IssueInstant" = some time ∧ Values.isUniversalTime time = true := by
  obtain ⟨time, htime⟩ := Option.isSome_iff_exists.mp h
  simp only [issueReports, htime, Values.timeFindings_eq_nil_iff, Option.some.injEq,
    exists_eq_left']

/-- A report is about the time of issue of an assertion, which is not acceptable. -/
theorem mem_reports {root : Element} {d : Duty} {e : Element} {v : Violation}
    (ht : (d, e) ∈ tasks root) (hv : v ∈ d.reports e) :
    e ∈ Saml.assertionsBelow root ∧
      ∃ time, e.attribute? "IssueInstant" = some time ∧ ¬ Values.isUniversalTime time = true ∧
        v ∈ Values.timeFindings time (some .core_2_3_3_c) := by
  cases d with
  | form =>
      refine ⟨(mem_tasks_iff root form e).mp ht, ?_⟩
      cases htime : e.attribute? "IssueInstant" with
      | none =>
          simp only [reports, issueReports, htime, List.not_mem_nil] at hv
      | some time =>
          simp only [reports, issueReports, htime] at hv
          refine ⟨time, rfl, fun hgood => ?_, hv⟩
          rw [Values.timeFindings_eq_nil_iff.mpr hgood] at hv
          exact absurd hv List.not_mem_nil
  | limits => exact absurd hv List.not_mem_nil
  | subject => exact absurd hv List.not_mem_nil
  | question => exact absurd hv List.not_mem_nil

end Duty

/-- An assertion to which nobody objects. -/
structure WellFormed (a : Element) : Prop extends Formed a where
  /-- The time of issue is stated in universal time. -/
  timed : ∃ time, a.attribute? "IssueInstant" = some time ∧ Values.isUniversalTime time = true
  /-- Its statements are about somebody. -/
  attributed : Attributed a

/-- All elements do their duty and nothing is reported about them if and only if all assertions
are well formed, all conditions are limited, and no query asks twice. -/
theorem wellFormed_iff (root : Element) :
    ((∀ t ∈ Duty.tasks root, t.1.Met t.2) ∧
        ((Duty.tasks root).flatMap fun t => t.1.reports t.2) = []) ↔
      (∀ a ∈ root.descendants, a.is Saml.assertionNs "Assertion" = true → WellFormed a) ∧
      (∀ c ∈ root.descendants, c.is Saml.assertionNs "Conditions" = true → Limited c) ∧
      ∀ q ∈ root.self, q.is Saml.protocolNs "AttributeQuery" = true → AsksOnce q := by
  have hreports : ((Duty.tasks root).flatMap fun t => t.1.reports t.2) = [] ↔
      ∀ a ∈ Saml.assertionsBelow root, issueReports a = [] := by
    rw [List.flatMap_eq_nil_iff]
    constructor
    · exact fun h a ha => h (.form, a) ((Duty.mem_tasks_iff root .form a).mpr ha)
    · rintro h ⟨d, e⟩ ht
      cases d with
      | form => exact h e ((Duty.mem_tasks_iff root .form e).mp ht)
      | limits => rfl
      | subject => rfl
      | question => rfl
  have hwell : ∀ a, WellFormed a ↔ (Formed a ∧ Attributed a) ∧ issueReports a = [] := by
    intro a
    constructor
    · exact fun h => ⟨⟨h.toFormed, h.attributed⟩,
        (Duty.issueReports_eq_nil_iff h.dated).mpr h.timed⟩
    · exact fun ⟨⟨hformed, hattributed⟩, htime⟩ =>
        ⟨hformed, (Duty.issueReports_eq_nil_iff hformed.dated).mp htime, hattributed⟩
  rw [Duty.met_iff, hreports]
  simp only [Saml.assertionsBelow, Element.descendantsNamed, List.mem_filter, and_imp, hwell,
    forall_and]
  tauto

/-- How the rules come to an end: either all elements do their duty and only times of issue are
reported, or the first that does not is blamed. -/
theorem run_cases (r : Reply) (name : String) (sections : List Section) :
    ((∀ t ∈ Duty.tasks r.root, t.1.Met t.2) ∧
      RuleGroup.run ⟨name, sections, formRules⟩ r =
        (Duty.tasks r.root).flatMap fun t => t.1.reports t.2) ∨
    ∃ before d e after own v, Duty.tasks r.root = before ++ (d, e) :: after ∧
      (∀ t ∈ before, t.1.Met t.2) ∧ ¬ d.Met e ∧ v.context = some e.toXml ∧
      (own = [] ∨ own = d.reports e) ∧
      RuleGroup.run ⟨name, sections, formRules⟩ r =
        (before.flatMap fun t => t.1.reports t.2) ++ own ++ [v] := by
  have hrun : RuleGroup.run ⟨name, sections, formRules⟩ r =
      (Outcome.all ((Duty.tasks r.root).map fun t => t.1.outcome t.2)).violations := by
    rw [RuleGroup.run, runAll_formRules]
  have hmet : ∀ t : Duty × Element, (t.1.outcome t.2).failure = none ↔ t.1.Met t.2 :=
    fun t => Duty.failure_outcome_eq_none_iff t.1 t.2
  rw [hrun]
  rcases Outcome.all_map_cases (fun t : Duty × Element => t.1.outcome t.2) (Duty.tasks r.root) with
    ⟨hall, heq⟩ | ⟨before, ⟨d, e⟩, after, v, htasks, hbefore, hv, heq⟩
  · have hduties := fun t ht => (hmet t).mp (hall t ht)
    refine Or.inl ⟨hduties, ?_⟩
    rw [heq, Duty.flatMap_findings_of_met hduties]
    exact Outcome.violations_report _
  · have hduties := fun t ht => (hmet t).mp (hbefore t ht)
    refine Or.inr ⟨before, d, e, after, (d.outcome e).findings, v, htasks, hduties, ?_,
      Duty.blames_outcome d e v hv, (Duty.findings_outcome d e).1, ?_⟩
    · rw [← hmet (d, e), hv]
      exact Option.some_ne_none v
    · rw [heq, Duty.flatMap_findings_of_met hduties]
      rfl

end Assertion

end SamlConformance
