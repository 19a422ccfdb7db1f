import SamlConformance.Proofs.Rule.Breaches.Basic
import SamlConformance.Proofs.Rule.Offenders

/-!
# Checks on One List of Findings

The outcome of a rule is a value, and outcomes are put together by the rules of `Outcome`.
A rule may also be seen as a step that is taken: it is handed the list of all findings so far,
does with it what it likes, and either goes on or breaks off. Then nothing is left of the
separation that the outcomes have by their type. Such a step could leave out a finding because
there is one of its kind already, or count the findings, or break off because there are many.

What has to be said of a step is that it does none of this. It carries an outcome if, whatever
the list holds, it puts the findings of the outcome at the end and breaks off just as the
outcome fails (`Carries`). This goes through sequence, choice and repetition, and so it can be
shown of a step by walking through its parts. What is found by steps on one list, up to the first
that breaks off, is then what their outcomes give in sequence (`runFrom_eq`).

## Main definitions

* `Inspection`: A step on the list of findings that may break off.
* `Inspection.report`, `Inspection.stop`: What such steps are made of.
* `Inspection.Carries`: What a step does to the list, and to the course of things, is an outcome.
* `Inspector`: A named step for each reply.
* `Inspector.run`: Steps one after another on one list.
* `Inspector.alone`: The rule that is a step on an empty list.
* `Inspector.Carries`: A step carries the outcomes of a rule.

## Theorems

* `carries_bind`, `carries_ite`, `carries_forM`: Sequence, choice and repetition.
* `not_carries_if_isEmpty`: A step that looks at the list carries nothing.
* `alone_of_carries`: A step that carries the outcomes of a rule is that rule.
* `runFrom_eq`: Steps that carry outcomes, one after another.
-/

namespace SamlConformance

/-- A step on the list of findings. It is handed the list so far, and may break off with a
violation. -/
abbrev Inspection := ExceptT Violation (StateM (List Violation))

namespace Inspection

/-- Puts a finding at the end of the list. -/
def report (v : Violation) : Inspection Unit :=
  modify fun found => found ++ [v]

/-- Breaks off if there is something to break off with. -/
def stop (v : Option Violation) : Inspection Unit :=
  match v with
  | none => pure ()
  | some v => throw v

/-- Breaks off if the condition holds. -/
def stopIf (c : Bool) (v : Violation) : Inspection Unit :=
  if c then throw v else pure ()

/-- Puts a finding at the end of the list unless the condition holds. -/
def reportUnless (c : Prop) [Decidable c] (v : Violation) : Inspection Unit :=
  if c then pure () else report v

/-- What the step makes of a list, and whether it breaks off. -/
def on (c : Inspection Unit) (found : List Violation) : Except Violation Unit × List Violation :=
  c.run.run found

/-- How a step goes on that carries the outcome. -/
def course (o : Outcome) : Except Violation Unit :=
  match o.failure with
  | none => .ok ()
  | some v => .error v

/-- Whatever the list holds, the step puts the findings of the outcome at the end, and breaks
off if the outcome fails. -/
def Carries (c : Inspection Unit) (o : Outcome) : Prop :=
  ∀ found, c.on found = (course o, found ++ o.findings)

theorem carries_pure : Carries (pure ()) .clean := by
  intro found
  exact congrArg (Prod.mk _) (List.append_nil found).symm

theorem carries_report (v : Violation) : Carries (report v) (.report [v]) :=
  fun _ => rfl

theorem carries_throw (v : Violation) : Carries (throw v) (.fail v) := by
  intro found
  exact congrArg (Prod.mk _) (List.append_nil found).symm

/-- Of two steps the one that is taken counts, and so does the one of two outcomes. The outcomes
may have a form in common, such as that they only report. -/
theorem carries_ite {α : Type} (f : α → Outcome) (c : Prop) [Decidable c]
    {a b : Inspection Unit} {x y : α} (ha : Carries a (f x)) (hb : Carries b (f y)) :
    Carries (if c then a else b) (f (if c then x else y)) := by
  by_cases hc : c
  · rw [if_pos hc, if_pos hc]
    exact ha
  · rw [if_neg hc, if_neg hc]
    exact hb

theorem carries_reportUnless (c : Prop) [Decidable c] (v : Violation) :
    Carries (reportUnless c v) (.report (if c then [] else [v])) :=
  carries_ite .report c carries_pure (carries_report v)

/-- The second step is handed what the first one left, unless that one broke off. -/
theorem on_bind (a b : Inspection Unit) (found : List Violation) :
    on (do a; b) found = match a.on found with
      | (.ok (), found') => b.on found'
      | (.error v, found') => (.error v, found') := by
  unfold on
  rw [ExceptT.run_bind, StateT.run_bind]
  rcases a.run.run found with ⟨_ | _, found'⟩ <;> rfl

theorem carries_bind {a b : Inspection Unit} {o p : Outcome} (ha : Carries a o)
    (hb : Carries b p) : Carries (do a; b) (o.andThen p) := by
  intro found
  rw [on_bind, ha found]
  rcases o with ⟨findings, _ | v⟩
  · have hrest := hb (found ++ findings)
    rw [List.append_assoc] at hrest
    exact hrest
  · rfl

theorem carries_forM {α : Type} {f : α → Inspection Unit} {o : α → Outcome} (xs : List α)
    (h : ∀ x, Carries (f x) (o x)) : Carries (xs.forM f) (.all (xs.map o)) := by
  induction xs with
  | nil => exact carries_pure
  | cons x xs ih => exact carries_bind (h x) ih

/-- Steps that only report, one after another. -/
theorem all_map_report {α : Type} (f : α → List Violation) (xs : List α) :
    Outcome.all (xs.map fun x => .report (f x)) = .report (xs.flatMap f) := by
  induction xs with
  | nil => rfl
  | cons x xs ih =>
      have hall : Outcome.all ((x :: xs).map fun x => .report (f x)) =
          (Outcome.report (f x)).andThen (.all (xs.map fun x => .report (f x))) := rfl
      rw [hall, ih]
      rfl

theorem carries_stop (v : Option Violation) : Carries (stop v) (.ofFailure v) := by
  cases v with
  | none => exact carries_pure
  | some v => exact carries_throw v

theorem carries_stopIf (c : Bool) (v : Violation) : Carries (stopIf c v) (.failIf c v) := by
  cases c with
  | false => exact carries_pure
  | true => exact carries_throw v

/-- Reports about all members of a list, one after another. -/
theorem carries_forM_report {α : Type} {f : α → Inspection Unit} {g : α → List Violation}
    (xs : List α) (h : ∀ x, Carries (f x) (.report (g x))) :
    Carries (xs.forM f) (.report (xs.flatMap g)) := by
  rw [← all_map_report]
  exact carries_forM xs h

/-- The first fault in a list ends the inspection of the list. -/
theorem carries_forM_stop {α : Type} {f : α → Inspection Unit} {g : α → Option Violation}
    (xs : List α) (h : ∀ x, Carries (f x) (.ofFailure (g x))) :
    Carries (xs.forM f) (.ofFailure (xs.findSome? g)) := by
  rw [Outcome.ofFailure_findSome?]
  exact carries_forM xs h

/-- Of two faults the first that is there ends the inspection. -/
theorem carries_bind_stop {a b : Inspection Unit} {v w : Option Violation}
    (ha : Carries a (.ofFailure v)) (hb : Carries b (.ofFailure w)) :
    Carries (do a; b) (.ofFailure (v.or w)) := by
  have hboth := carries_bind ha hb
  cases v <;> exact hboth

/-- Reports, one after another. -/
theorem carries_bind_report {a b : Inspection Unit} {vs ws : List Violation}
    (ha : Carries a (.report vs)) (hb : Carries b (.report ws)) :
    Carries (do a; b) (.report (vs ++ ws)) :=
  carries_bind ha hb

/-- A step that reports only if nothing is on the list yet carries no outcome, whatever it
reports. On an empty list it puts one finding, and on others none. -/
theorem not_carries_if_isEmpty (v : Violation) (o : Outcome) :
    ¬ Carries (do if (← get).isEmpty then report v else pure ()) o := by
  intro h
  have hempty : [v] = o.findings := congrArg Prod.snd (h [])
  have hfull : [v] = [v] ++ o.findings := congrArg Prod.snd (h [v])
  rw [← hempty] at hfull
  exact absurd (congrArg List.length hfull) (Nat.succ_ne_self 1).symm

end Inspection

/-- A named step for each reply. -/
structure Inspector where
  /-- Its name. -/
  name : String
  /-- What it does with the list of findings. -/
  inspect : Reply → Inspection Unit

namespace Inspector

/-- What is on the list at the end, if it starts with some findings and the steps are taken one
after another. The first that breaks off is the last, and its violation comes last. -/
def runFrom (r : Reply) : List Inspector → List Violation → List Violation
  | [], found => found
  | i :: rest, found =>
    match (i.inspect r).on found with
    | (.ok (), found') => runFrom r rest found'
    | (.error v, found') => found' ++ [v]

/-- The same on an empty list. -/
def run (is : List Inspector) (r : Reply) : List Violation :=
  runFrom r is []

/-- The rule that is the step on an empty list. -/
def alone (i : Inspector) : Rule where
  name := i.name
  check r := match (i.inspect r).on [] with
    | (.ok (), found) => ⟨found, none⟩
    | (.error v, found) => ⟨found, some v⟩

/-- The step carries the outcomes of the rule, and has its name. -/
structure Carries (i : Inspector) (rule : Rule) : Prop where
  /-- The names are the same. -/
  name : i.name = rule.name
  /-- So is what they do. -/
  check : ∀ r, (i.inspect r).Carries (rule.check r)

/-- A step that carries the outcomes of a rule is that rule, if it is alone. -/
theorem alone_of_carries {i : Inspector} {rule : Rule} (h : i.Carries rule) : i.alone = rule := by
  rcases rule with ⟨name, check⟩
  obtain rfl : i.name = name := h.name
  have hcheck : i.alone.check = check := by
    funext r
    have hon := h.check r []
    simp only [alone, hon, List.nil_append, Inspection.course]
    rcases check r with ⟨findings, _ | v⟩ <;> rfl
  rw [← hcheck]
  rfl

/-- Steps that carry outcomes, one after another, put all that the outcomes give in sequence
behind what was on the list. -/
theorem runFrom_eq (r : Reply) (is : List Inspector)
    (h : ∀ i ∈ is, (i.inspect r).Carries (i.alone.check r)) (found : List Violation) :
    runFrom r is found = found ++ (Rule.runAll (is.map alone) r).violations := by
  induction is generalizing found with
  | nil => exact (List.append_nil found).symm
  | cons i is ih =>
      have hall : Rule.runAll ((i :: is).map alone) r =
          (i.alone.check r).andThen (Rule.runAll (is.map alone) r) := rfl
      rw [runFrom, h i List.mem_cons_self found, hall]
      rcases i.alone.check r with ⟨findings, _ | v⟩
      · -- The next step is handed the findings of this one, and its own come behind them.
        have hrest := ih (fun j hj => h j (List.mem_cons_of_mem i hj)) (found ++ findings)
        rw [Outcome.violations_andThen_of_report, ← List.append_assoc]
        exact hrest
      · exact List.append_assoc _ _ _

end Inspector

end SamlConformance
