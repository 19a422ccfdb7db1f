import SamlConformance.Idp.Metadata
import SamlConformance.Message.Basic
import SamlConformance.Request

/-!
# Rules

A rule looks at a reply and says what is wrong with it. It may report any number
of violations, and it may fail, which means that the rules after it in its group
would only repeat the trouble; they are left out.

An outcome holds both, and outcomes are put in sequence like the steps of a
program: reports add up until something fails. No rule sees what others found,
so the outcome of a group is that of its rules in sequence.

## Main definitions

* `Reply`: A message with the request it answers and the provider it came from.
* `Outcome`: What was reported, and what failed.
* `Outcome.andThen`, `Outcome.all`: Outcomes in sequence.
* `Rule`, `RuleGroup`: Named checks, and lists of them that cover sections.
* `RuleGroup.run`: The violations a group finds.

## Theorems

* `andThen_assoc`, `clean_andThen`, `andThen_clean`: Sequence is associative, and
  finding nothing is neutral.
* `all_append`: A list of outcomes can be cut anywhere.
* `violations_all_eq_nil_iff`: A sequence finds nothing if and only if nothing in it
  does.
* `RuleGroup.run_eq_nil_iff`: A group finds nothing if and only if no rule of it does.
-/

namespace SamlConformance

/-- A message with the request it answers and the provider it came from. -/
structure Reply where
  /-- The decoded message. -/
  message : Message
  /-- The request. -/
  request : Request
  /-- What is known of the provider. -/
  metadata : IdpMetadata

namespace Reply

/-- The document element. -/
def root (r : Reply) : Xml.Element :=
  r.message.root

/-- The message carries a signature, inside or beside the document. -/
def isSigned (r : Reply) : Bool :=
  r.root.hasChild Saml.signatureNs "Signature" || r.message.hasQuerySignature

/-- A relay state was sent with the request. -/
def relayStateGiven (r : Reply) : Bool :=
  r.request.relayStateGiven || r.message.received.relayStateGiven

end Reply

/-- What a check found. -/
structure Outcome where
  /-- What was reported, in order. -/
  findings : List Violation
  /-- What made the check fail. -/
  failure : Option Violation
deriving Repr, DecidableEq

namespace Outcome

/-- Nothing is wrong. -/
def clean : Outcome := ⟨[], none⟩

/-- Reports and goes on. -/
def report (vs : List Violation) : Outcome := ⟨vs, none⟩

/-- Fails. -/
def fail (v : Violation) : Outcome := ⟨[], some v⟩

/-- Fails if there is something to fail with. -/
def ofFailure (v : Option Violation) : Outcome := ⟨[], v⟩

/-- Fails if the condition holds. -/
def failIf (c : Bool) (v : Violation) : Outcome :=
  if c then fail v else clean

/-- One outcome after another; nothing comes after a failure. -/
def andThen (a b : Outcome) : Outcome :=
  match a.failure with
  | some _ => a
  | none => ⟨a.findings ++ b.findings, b.failure⟩

/-- Several outcomes in sequence. -/
def all (os : List Outcome) : Outcome :=
  os.foldr andThen clean

/-- Everything that was found, the failure last. -/
def violations (o : Outcome) : List Violation :=
  o.findings ++ o.failure.toList

theorem clean_andThen (o : Outcome) : clean.andThen o = o := rfl

theorem andThen_clean (o : Outcome) : o.andThen clean = o := by
  rcases o with ⟨vs, _ | v⟩ <;> simp [andThen, clean]

theorem andThen_assoc (a b c : Outcome) :
    (a.andThen b).andThen c = a.andThen (b.andThen c) := by
  rcases a with ⟨as, _ | v⟩
  · rcases b with ⟨bs, _ | w⟩ <;> simp [andThen]
  · rfl

theorem all_append (as bs : List Outcome) : all (as ++ bs) = (all as).andThen (all bs) := by
  induction as with
  | nil => rfl
  | cons a as ih =>
    have : all (a :: (as ++ bs)) = a.andThen (all (as ++ bs)) := rfl
    rw [List.cons_append, this, ih, ← andThen_assoc]
    rfl

theorem violations_report (vs : List Violation) : (report vs).violations = vs :=
  List.append_nil vs

theorem violations_andThen_eq_nil_iff (a b : Outcome) :
    (a.andThen b).violations = [] ↔ a.violations = [] ∧ b.violations = [] := by
  rcases a with ⟨as, _ | v⟩
  · simp only [andThen, violations, List.append_eq_nil_iff, Option.toList_none, and_true,
      and_assoc]
  · simp only [andThen, violations, List.append_eq_nil_iff, Option.toList_some, reduceCtorEq,
      and_false, false_and]

/-- A sequence finds nothing if and only if nothing in it does. -/
theorem violations_all_eq_nil_iff (os : List Outcome) :
    (all os).violations = [] ↔ ∀ o ∈ os, o.violations = [] := by
  induction os with
  | nil => exact ⟨fun _ o ho => absurd ho List.not_mem_nil, fun _ => rfl⟩
  | cons o os ih =>
    have hall : all (o :: os) = o.andThen (all os) := rfl
    rw [hall, violations_andThen_eq_nil_iff, ih, List.forall_mem_cons]

end Outcome

/-- A named check. -/
structure Rule where
  /-- Its name. -/
  name : String
  /-- What it finds in a reply. -/
  check : Reply → Outcome

/-- The outcome of rules in sequence. -/
def Rule.runAll (rules : List Rule) (r : Reply) : Outcome :=
  Outcome.all (rules.map fun rule => rule.check r)

/-- Rules that together cover some sections. -/
structure RuleGroup where
  /-- Its name. -/
  name : String
  /-- The sections it checks. -/
  sections : List Section
  /-- Its rules in order. -/
  rules : List Rule

/-- The violations the rules of a group find. -/
def RuleGroup.run (g : RuleGroup) (r : Reply) : List Violation :=
  (Rule.runAll g.rules r).violations

/-- A group finds nothing if and only if no rule of it does. -/
theorem RuleGroup.run_eq_nil_iff (g : RuleGroup) (r : Reply) :
    g.run r = [] ↔ ∀ rule ∈ g.rules, (rule.check r).violations = [] := by
  rw [run, Rule.runAll, Outcome.violations_all_eq_nil_iff, List.forall_mem_map]

end SamlConformance
