import SamlConformance.Proofs.Rule.Inspection.Layers

/-!
# Rules One After Another

What a group finds depends on the order of its rules in one way only: the first rule that fails
ends the group. Otherwise the rules do not know of each other. This cannot be read off the loop
that runs them, which hands each rule the findings of all rules before it and takes whatever
list the rule leaves. It rests on every single rule, and there are thirty-four.

Since each of them carries an outcome (`carries_shipped`), so that the list it is handed makes
no difference to it, any rules from any groups can be put together in any order, a rule can be
there more than once, and the loop can be cut anywhere: what comes behind the cut is added to
what came before it, unless the loop did not get so far (`run_shipped`).

The steps here are the rules themselves. Alone on an empty list, each is the rule of its name,
and a group that consists of such rules finds what the loop leaves on the list (`run_eq`).

## Main definitions

* `RuleGroup.shipped`: The rules of all groups.
* `Inspector.shipped`: The same as steps on one list.
* `Inspector.reported`, `Inspector.thrown?`: What a step puts on a list, and what it breaks off
  with.
* `Inspector.Ends`: What a run comes to.

## Theorems

* `Outcome.failure_all_eq_none_iff`: A sequence goes through if and only if all of it does.
* `Inspector.carries_shipped`: Every rule is carried by its step.
* `Inspector.run_eq`: The loop finds what the group finds.
* `Inspector.ends_run`: What is reported stays in order, the failure is last, and nothing comes
  after it.
* `Inspector.run_append`: The loop can be cut anywhere.
* `Inspector.run_shipped`: What follows for rules from all groups.
-/

namespace SamlConformance

namespace Outcome

/-- A sequence goes through if and only if all of it does. -/
theorem failure_all_eq_none_iff (os : List Outcome) :
    (all os).failure = none ↔ ∀ o ∈ os, o.failure = none := by
  rcases all_map_cases id os with ⟨hnone, hall⟩ | ⟨before, o, after, v, rfl, -, ho, hall⟩
  · rw [List.map_id] at hall
    exact iff_of_true (congrArg failure hall) hnone
  · rw [List.map_id] at hall
    refine iff_of_false ?_ fun hnone => ?_
    · rw [hall]
      exact Option.some_ne_none v
    · have hthis := hnone o (List.mem_append_right before List.mem_cons_self)
      exact Option.some_ne_none v (ho.symm.trans hthis)

/-- What comes after a failure is not found. -/
theorem violations_andThen_of_failure {a : Outcome} {v : Violation} (h : a.failure = some v)
    (b : Outcome) : (a.andThen b).violations = a.violations := by
  rw [andThen, h]

/-- What comes after an outcome that goes through is added to it. -/
theorem violations_andThen_of_none {a : Outcome} (h : a.failure = none) (b : Outcome) :
    (a.andThen b).violations = a.violations ++ b.violations := by
  rcases a with ⟨findings, failure⟩
  obtain rfl : failure = none := h
  rw [violations_andThen_of_report findings b]
  exact congrArg (· ++ b.violations) (violations_report findings).symm

end Outcome

/-- The rules of all groups. -/
def RuleGroup.shipped : List Rule :=
  core.rules ++ protocol.rules ++ profile.rules ++ (binding .redirect).rules ++
    (binding .post).rules

namespace Inspector

/-- The rules of all groups as steps. -/
def shipped : List Inspector :=
  core ++ protocol ++ profile ++ redirect ++ post

/-- What the step puts on an empty list. -/
def reported (r : Reply) (i : Inspector) : List Violation :=
  (i.alone.check r).findings

/-- What the step breaks off with, if it does, on an empty list. -/
def thrown? (r : Reply) (i : Inspector) : Option Violation :=
  (i.alone.check r).failure

/-- What a run of the steps comes to: all of them go through and what they report is found, or
one breaks off, and what is found is what was reported up to there and the violation it broke
off with. -/
def Ends (r : Reply) (is : List Inspector) (found : List Violation) : Prop :=
  ((∀ i ∈ is, i.thrown? r = none) ∧ found = is.flatMap (reported r)) ∨
  ∃ before i after v, is = before ++ i :: after ∧ (∀ j ∈ before, j.thrown? r = none) ∧
    i.thrown? r = some v ∧ found = before.flatMap (reported r) ++ i.reported r ++ [v]

/-- Every rule is carried by its step. -/
theorem carries_shipped : List.Forall₂ Carries shipped RuleGroup.shipped :=
  List.rel_append (List.rel_append (List.rel_append (List.rel_append carries_core
    carries_protocol) carries_profile) carries_redirect) carries_post

/-- Steps that carry rules are these rules, if they are alone. -/
theorem map_alone_of_carries {is : List Inspector} {rules : List Rule}
    (h : List.Forall₂ Carries is rules) : is.map alone = rules := by
  induction h with
  | nil => rfl
  | cons hi _ ih => rw [List.map_cons, alone_of_carries hi, ih]

theorem exists_carries_of_mem {is : List Inspector} {rules : List Rule}
    (h : List.Forall₂ Carries is rules) : ∀ i ∈ is, ∃ rule, i.Carries rule := by
  induction h with
  | nil => exact fun i hi => absurd hi List.not_mem_nil
  | cons hi _ ih => exact List.forall_mem_cons.mpr ⟨⟨_, hi⟩, ih⟩

/-- A step does on any list what it does on an empty one. -/
theorem carries_alone {i : Inspector} (hi : i ∈ shipped) (r : Reply) :
    (i.inspect r).Carries (i.alone.check r) := by
  obtain ⟨rule, hrule⟩ := exists_carries_of_mem carries_shipped i hi
  rw [alone_of_carries hrule]
  exact hrule.check r

/-- The rules of all groups are the steps, each of them alone. -/
theorem map_alone_shipped : shipped.map alone = RuleGroup.shipped :=
  map_alone_of_carries carries_shipped

variable {first second : List Inspector}

/-- The loop finds what a group of the same rules finds. -/
theorem run_eq (hfirst : ∀ i ∈ first, i ∈ shipped) (r : Reply) :
    run first r = (Rule.runAll (first.map alone) r).violations :=
  runFrom_eq r first (fun i hi => carries_alone (hfirst i hi) r) []

theorem runAll_eq (is : List Inspector) (r : Reply) :
    Rule.runAll (is.map alone) r = .all (is.map fun i => i.alone.check r) :=
  congrArg Outcome.all List.map_map

/-- What is reported stays in order, the failure is last, and nothing comes after it. -/
theorem ends_run (hfirst : ∀ i ∈ first, i ∈ shipped) (r : Reply) :
    Ends r first (run first r) := by
  rw [run_eq hfirst, runAll_eq]
  rcases Outcome.all_map_cases (fun i : Inspector => i.alone.check r) first with
    ⟨hnone, hall⟩ | ⟨before, i, after, v, hsplit, hbefore, hi, hall⟩
  · refine Or.inl ⟨hnone, ?_⟩
    rw [hall]
    exact Outcome.violations_report _
  · exact Or.inr ⟨before, i, after, v, hsplit, hbefore, hi, congrArg Outcome.violations hall⟩

/-- Where the loop is cut, the outcome of the group is cut too. -/
theorem run_append (hfirst : ∀ i ∈ first, i ∈ shipped) (hsecond : ∀ i ∈ second, i ∈ shipped)
    (r : Reply) :
    run (first ++ second) r = ((Rule.runAll (first.map alone) r).andThen
      (Rule.runAll (second.map alone) r)).violations := by
  rw [run_eq (List.forall_mem_append.mpr ⟨hfirst, hsecond⟩), runAll_eq, runAll_eq, runAll_eq,
    List.map_append, Outcome.all_append]

/-- Rules from any groups, in any order and any number. If one of the first list breaks off,
the second list adds nothing to what is found, and otherwise all that it finds on its own. What
is reported stays in order up to the first violation that ends the loop, which is the last one.
The list that a rule is handed makes no difference to it, and what the loop finds is what the
same rules find as a group. -/
theorem run_shipped (r : Reply) (first second : List Inspector)
    (hfirst : ∀ i ∈ first, i ∈ shipped) (hsecond : ∀ i ∈ second, i ∈ shipped) :
    ((∃ i ∈ first, i.thrown? r ≠ none) → run (first ++ second) r = run first r) ∧
      ((¬ ∃ i ∈ first, i.thrown? r ≠ none) →
        run (first ++ second) r = run first r ++ run second r) ∧
      Ends r first (run first r) ∧
      (∀ i ∈ first, (i.inspect r).Carries ⟨i.reported r, i.thrown? r⟩) ∧
      (∀ name sections, run first r = RuleGroup.run ⟨name, sections, first.map alone⟩ r) ∧
      shipped.map alone = RuleGroup.shipped := by
  have hfailure : (Rule.runAll (first.map alone) r).failure = none ↔
      ∀ i ∈ first, i.thrown? r = none := by
    rw [runAll_eq, Outcome.failure_all_eq_none_iff, List.forall_mem_map]
    rfl
  refine ⟨fun hthrow => ?_, fun hthrow => ?_, ends_run hfirst r,
    fun i hi => carries_alone (hfirst i hi) r, fun _ _ => run_eq hfirst r, map_alone_shipped⟩
  · obtain ⟨i, hi, hne⟩ := hthrow
    have hsome : (Rule.runAll (first.map alone) r).failure ≠ none :=
      fun h => hne (hfailure.mp h i hi)
    obtain ⟨v, hv⟩ := Option.ne_none_iff_exists'.mp hsome
    rw [run_append hfirst hsecond, Outcome.violations_andThen_of_failure hv, run_eq hfirst]
  · have hnone : ∀ i ∈ first, i.thrown? r = none := by
      intro i hi
      by_contra hne
      exact hthrow ⟨i, hi, hne⟩
    rw [run_append hfirst hsecond, Outcome.violations_andThen_of_none (hfailure.mpr hnone),
      run_eq hfirst, run_eq hsecond]

/-- A reply by redirect whose only assertion has nothing in it. -/
def bareAssertion : Reply where
  message := ⟨⟨.redirect, 200, [], false⟩, .response, "",
    ⟨{ name := ⟨none, none, "r"⟩ },
      [.element { name := ⟨some Saml.assertionNs, none, "Assertion"⟩ } []]⟩, []⟩
  request := { id := "_0", acsUrl := "https://sp" }
  metadata := { entityId := "idp" }

/-- The assertion ends the loop, and so the status of the transport is found before it, and is
not found behind it. -/
theorem run_shipped_bareAssertion :
    let form : Inspector := ⟨"assertion_structure", Assertion.inspectStructure⟩
    let status : Inspector := ⟨"redirect_status", Transport.inspectRedirectStatus⟩
    run ([form] ++ [status]) bareAssertion = run [form] bareAssertion ∧
      run ([status] ++ [form]) bareAssertion =
        run [status] bareAssertion ++ run [form] bareAssertion ∧
      run [status] bareAssertion ≠ [] := by
  intro form status
  have hform : ∀ i ∈ [form], i ∈ shipped := by
    simp [form, shipped, core]
  have hstatus : ∀ i ∈ [status], i ∈ shipped := by
    simp [status, shipped, redirect]
  have hthrow : ∃ i ∈ [form], i.thrown? bareAssertion ≠ none :=
    ⟨form, List.mem_singleton.mpr rfl, by decide⟩
  have hnone : ¬ ∃ i ∈ [status], i.thrown? bareAssertion ≠ none := by
    simp only [List.mem_singleton, exists_eq_left]
    decide
  exact ⟨(run_shipped bareAssertion [form] [status] hform hstatus).1 hthrow,
    (run_shipped bareAssertion [status] [form] hstatus hform).2.1 hnone, by decide⟩

end Inspector

end SamlConformance
