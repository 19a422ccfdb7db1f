import SamlConformance.Rule.Basic
import SamlConformance.Saml.Parts

/-!
# Which Clauses a Check Can Breach

The clauses that a violation breaches are chosen where it is found, deep inside a rule,
while the sections that count as checked are listed far away, at the group. To compare
the two, every check gets the list of the clauses it can breach, in the way a program
gets a list of the effects it can have: the list of a whole is made of the lists of its
parts, and a list may always be made longer (`OnlyBreach.mono`).

All ways of putting findings and outcomes together respect such lists, a failure included,
since what comes after it is only left out. So the list of a rule follows from looking at
the places where it makes a violation, and nothing else about the rule matters.

Lists bound from above what is breached. Where it matters that a clause really is breached,
the part that does so must not be left out, and the lists of the other parts serve to say
that it is breached nowhere else (`Outcome.breached_andThen_iff`).

## Main definitions

* `OnlyBreach`: All violations of a list breach clauses of a given list only.
* `Breached`: Some violation of a list breaches a clause.
* `Rule.OnlyBreaches`: The same for what a rule finds, whatever it looks at.

## Theorems

* `onlyBreach_append`, `onlyBreach_flatMap`, `onlyBreach_map`: Findings put together.
* `onlyBreach_or`, `onlyBreach_findSome?`, `onlyBreach_shown`: The first fault of several.
* `Outcome.onlyBreach_andThen`, `Outcome.onlyBreach_all`: Outcomes in sequence.
* `OnlyBreach.not_breached`: What is not in the list is not breached.
* `OnlyBreach.eq_nil_iff`: If nothing in the list is breached, nothing is found.
* `Outcome.breached_andThen_iff`: What comes first is not left out.
* `Outcome.breached_all_iff`: A clause that is in the hands of one outcome.
* `RuleGroup.onlyBreach_run`: What holds of all rules of a group holds of the group.
-/

namespace SamlConformance

namespace Violation

/-- One more clause is breached, and it may be one of those already there. -/
theorem clauses_also_subset (v : Violation) (c : Clause) :
    (v.also c).clauses ⊆ v.clauses ++ [c] := by
  unfold also
  by_cases h : v.clauses.contains c
  · rw [if_pos h]
    exact List.subset_append_left _ _
  · rw [if_neg h]
    exact List.Subset.refl _

end Violation

/-- The violations breach no other clauses than these. -/
def OnlyBreach (vs : List Violation) (cs : List Clause) : Prop :=
  ∀ v ∈ vs, v.clauses ⊆ cs

section

variable {cs ds : List Clause} {vs us : List Violation}

theorem onlyBreach_nil : OnlyBreach [] cs := by
  intro v hv
  exact absurd hv List.not_mem_nil

theorem onlyBreach_of {c : Clause} (message : String) (hc : c ∈ cs) :
    OnlyBreach [.of c message] cs := by
  intro v hv
  rw [List.mem_singleton.mp hv]
  exact List.cons_subset.mpr ⟨hc, List.nil_subset cs⟩

theorem OnlyBreach.mono (h : OnlyBreach vs cs) (hsub : cs ⊆ ds) : OnlyBreach vs ds := by
  intro v hv
  exact List.Subset.trans (h v hv) hsub

theorem OnlyBreach.also {v : Violation} {c : Clause} (h : OnlyBreach [v] cs) (hc : c ∈ cs) :
    OnlyBreach [v.also c] cs := by
  intro u hu
  rw [List.mem_singleton.mp hu]
  refine List.Subset.trans (v.clauses_also_subset c) (List.append_subset.mpr ⟨?_, ?_⟩)
  · exact h v List.mem_cons_self
  · exact List.cons_subset.mpr ⟨hc, List.nil_subset cs⟩

/-- Showing a violation at an element does not change what it breaches. -/
theorem OnlyBreach.shownAt {v : Violation} (h : OnlyBreach [v] cs) (e : Xml.Element) :
    OnlyBreach [v.shownAt e] cs := by
  intro u hu
  rw [List.mem_singleton.mp hu]
  exact h v List.mem_cons_self

/-- Nor does giving the error that revealed it. -/
theorem OnlyBreach.because {v : Violation} (h : OnlyBreach [v] cs) (cause : String) :
    OnlyBreach [v.because cause] cs := by
  intro u hu
  rw [List.mem_singleton.mp hu]
  exact h v List.mem_cons_self

theorem onlyBreach_append (hvs : OnlyBreach vs cs) (hus : OnlyBreach us cs) :
    OnlyBreach (vs ++ us) cs := by
  intro v hv
  rcases List.mem_append.mp hv with hv | hv
  · exact hvs v hv
  · exact hus v hv

theorem onlyBreach_flatMap {α : Type} {f : α → List Violation} (xs : List α)
    (h : ∀ x, OnlyBreach (f x) cs) : OnlyBreach (xs.flatMap f) cs := by
  intro v hv
  rcases List.mem_flatMap.mp hv with ⟨x, -, hx⟩
  exact h x v hx

theorem onlyBreach_map {α : Type} {f : α → Violation} (xs : List α)
    (h : ∀ x, OnlyBreach [f x] cs) : OnlyBreach (xs.map f) cs := by
  intro v hv
  rcases List.mem_map.mp hv with ⟨x, -, rfl⟩
  exact h x _ List.mem_cons_self

/-- Of two faults that may be there, the first that is. -/
theorem onlyBreach_or {a b : Option Violation} (ha : OnlyBreach a.toList cs)
    (hb : OnlyBreach b.toList cs) : OnlyBreach (a.or b).toList cs := by
  cases a with
  | none => exact hb
  | some v => exact ha

/-- The first fault in a list of things. -/
theorem onlyBreach_findSome? {α : Type} {f : α → Option Violation} (xs : List α)
    (h : ∀ x, OnlyBreach (f x).toList cs) : OnlyBreach (xs.findSome? f).toList cs := by
  intro v hv
  rcases List.exists_of_findSome?_eq_some (Option.mem_toList.mp hv) with ⟨x, -, hx⟩
  exact h x v (Option.mem_toList.mpr hx)

theorem onlyBreach_shown {v : Violation} (e : Option Xml.Element) (h : OnlyBreach [v] cs) :
    OnlyBreach (e.map v.shownAt).toList cs := by
  cases e with
  | none => exact onlyBreach_nil
  | some e => exact h.shownAt e

end

namespace Outcome

variable {cs : List Clause}

theorem onlyBreach_clean : OnlyBreach clean.violations cs :=
  onlyBreach_nil

theorem onlyBreach_report {vs : List Violation} (h : OnlyBreach vs cs) :
    OnlyBreach (report vs).violations cs := by
  rw [violations_report]
  exact h

theorem onlyBreach_fail {v : Violation} (h : OnlyBreach [v] cs) :
    OnlyBreach (fail v).violations cs :=
  h

theorem onlyBreach_ofFailure {v : Option Violation} (h : OnlyBreach v.toList cs) :
    OnlyBreach (ofFailure v).violations cs :=
  h

theorem onlyBreach_failIf {v : Violation} (b : Bool) (h : OnlyBreach [v] cs) :
    OnlyBreach (failIf b v).violations cs := by
  cases b with
  | false => exact onlyBreach_clean
  | true => exact h

/-- Behind an outcome that is no failure the second one counts in full. -/
theorem violations_andThen_of_report (as : List Violation) (b : Outcome) :
    (andThen ⟨as, none⟩ b).violations = as ++ b.violations :=
  List.append_assoc _ _ _

theorem onlyBreach_andThen {a b : Outcome} (ha : OnlyBreach a.violations cs)
    (hb : OnlyBreach b.violations cs) : OnlyBreach (a.andThen b).violations cs := by
  rcases a with ⟨as, _ | v⟩
  · rw [violations_andThen_of_report]
    refine onlyBreach_append ?_ hb
    rw [violations, Option.toList_none, List.append_nil] at ha
    exact ha
  · exact ha

theorem onlyBreach_all {os : List Outcome} (h : ∀ o ∈ os, OnlyBreach o.violations cs) :
    OnlyBreach (all os).violations cs := by
  induction os with
  | nil => exact onlyBreach_clean
  | cons o os ih =>
      have hrest := ih fun x hx => h x (List.mem_cons_of_mem o hx)
      exact onlyBreach_andThen (h o List.mem_cons_self) hrest

end Outcome

/-- Some violation of the list breaches the clause. -/
def Breached (vs : List Violation) (c : Clause) : Prop :=
  ∃ v ∈ vs, c ∈ v.clauses

section

variable {c : Clause} {vs us : List Violation}

theorem not_breached_nil : ¬ Breached [] c := by
  rintro ⟨v, hv, _⟩
  exact List.not_mem_nil hv

theorem breached_singleton_iff {v : Violation} : Breached [v] c ↔ c ∈ v.clauses := by
  simp only [Breached, List.mem_singleton, exists_eq_left]

theorem breached_append_iff : Breached (vs ++ us) c ↔ Breached vs c ∨ Breached us c := by
  simp only [Breached, List.mem_append, or_and_right, exists_or]

/-- What is not in the list is not breached. -/
theorem OnlyBreach.not_breached {cs : List Clause} (h : OnlyBreach vs cs) (hc : c ∉ cs) :
    ¬ Breached vs c := by
  rintro ⟨v, hv, hbreached⟩
  exact hc (h v hv hbreached)

/-- A list of all clauses that may be breached tells an empty list of violations from others. -/
theorem OnlyBreach.eq_nil_iff {cs : List Clause} (h : OnlyBreach vs cs) :
    vs = [] ↔ ∀ c ∈ cs, ¬ Breached vs c := by
  constructor
  · rintro rfl c -
    exact not_breached_nil
  · intro hnone
    rw [List.eq_nil_iff_forall_not_mem]
    intro v hv
    have hclause : v.clause ∈ v.clauses := List.mem_cons_self
    exact hnone v.clause (h v hv hclause) ⟨v, hv, hclause⟩

/-- What is breached in sequence is breached by one of the two. -/
theorem Outcome.breached_or_of_andThen {a b : Outcome}
    (h : Breached (a.andThen b).violations c) :
    Breached a.violations c ∨ Breached b.violations c := by
  rcases a with ⟨as, _ | v⟩
  · rw [violations_andThen_of_report, breached_append_iff] at h
    rw [violations, Option.toList_none, List.append_nil]
    exact h
  · exact Or.inl h

/-- What comes first is not left out, so a clause that is not breached by what follows is
breached by the whole if and only if it is by the first part. -/
theorem Outcome.breached_andThen_iff {a b : Outcome} (hb : ¬ Breached b.violations c) :
    Breached (a.andThen b).violations c ↔ Breached a.violations c := by
  rcases a with ⟨as, _ | v⟩
  · rw [violations_andThen_of_report, breached_append_iff, or_iff_left hb, violations,
      Option.toList_none, List.append_nil]
  · rfl

/-- Neither is what comes behind a part that does not fail. -/
theorem Outcome.breached_andThen_iff_right {a b : Outcome} (hfailure : a.failure = none)
    (ha : ¬ Breached a.violations c) :
    Breached (a.andThen b).violations c ↔ Breached b.violations c := by
  rcases a with ⟨as, v⟩
  obtain rfl : v = none := hfailure
  rw [violations, Option.toList_none, List.append_nil] at ha
  rw [violations_andThen_of_report, breached_append_iff, or_iff_right ha]

/-- Where a clause is in the hands of one outcome, and none before it fails, all of them
together breach it if and only if this one does. -/
theorem Outcome.breached_all_iff {o : Outcome} (before after : List Outcome)
    (hfailure : ∀ a ∈ before, a.failure = none)
    (hothers : ∀ a ∈ before ++ after, ¬ Breached a.violations c) :
    Breached (all (before ++ o :: after)).violations c ↔ Breached o.violations c := by
  induction before with
  | nil =>
      -- Whatever a sequence breaches, one of its parts does.
      have hafter : ¬ Breached (all after).violations c := by
        induction after with
        | nil => exact not_breached_nil
        | cons a after ih =>
            rw [List.nil_append, List.forall_mem_cons] at hothers
            intro h
            rcases breached_or_of_andThen h with h | h
            · exact hothers.1 h
            · exact ih hothers.2 h
      exact breached_andThen_iff hafter
  | cons a before ih =>
      rw [List.forall_mem_cons] at hfailure
      rw [List.cons_append, List.forall_mem_cons] at hothers
      -- The part in front lets the others come, since it does not fail.
      exact (breached_andThen_iff_right hfailure.1 hothers.1).trans (ih hfailure.2 hothers.2)

end

/-- The rule breaches no other clauses than these, whatever it looks at. -/
def Rule.OnlyBreaches (rule : Rule) (cs : List Clause) : Prop :=
  ∀ r : Reply, OnlyBreach (rule.check r).violations cs

theorem Rule.OnlyBreaches.mono {rule : Rule} {cs ds : List Clause} (h : rule.OnlyBreaches cs)
    (hsub : cs ⊆ ds) : rule.OnlyBreaches ds :=
  fun r => (h r).mono hsub

/-- What no rule of a group breaches, the group does not breach. -/
theorem RuleGroup.onlyBreach_run {g : RuleGroup} {cs : List Clause}
    (h : ∀ rule ∈ g.rules, rule.OnlyBreaches cs) (r : Reply) : OnlyBreach (g.run r) cs := by
  refine Outcome.onlyBreach_all ?_
  intro o ho
  rcases List.mem_map.mp ho with ⟨rule, hrule, rfl⟩
  exact h rule hrule r

end SamlConformance
