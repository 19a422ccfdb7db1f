import SamlConformance.Proofs.Message.Fields
import SamlConformance.Proofs.Xml.Content
import SamlConformance.Rule.Basic

/-!
# Findings without Their Nodes

Two spellings of one document cannot give equal findings, because a violation shows the
offending node as it was written. All else about a violation should be equal: it is left
when the node is taken away (`Violation.bare`), and taking it away goes through every way
of putting outcomes together.

So a rule ignores spelling if its bare outcome is the same for any two replies that are
alike, and this is to be shown for one rule at a time. What holds of rules then holds of
the groups they form.

## Main definitions

* `Violation.bare`, `Outcome.bare`: Without the offending nodes.
* `Reply.SameBeside`: Replies with whatever documents that are the same in all else.
* `Reply.Alike`: Replies that differ only in the spelling of their documents.
* `Rule.IgnoresSpelling`: Replies that are alike have the same bare outcome.

## Theorems

* `bare_report`, `bare_ofFailure`, `bare_failIf`, `bare_andThen`, `bare_all`: How
  outcomes are put together without the nodes.
* `RuleGroup.map_bare_run`: Groups of rules that ignore spelling.
-/

namespace SamlConformance

/-- The violation without the node that illustrates it. -/
def Violation.bare (v : Violation) : Violation :=
  { v with context := none }

namespace Outcome

/-- The outcome without the nodes that illustrate it. -/
def bare (o : Outcome) : Outcome :=
  ⟨o.findings.map Violation.bare, o.failure.map Violation.bare⟩

theorem bare_report (vs : List Violation) : (report vs).bare = report (vs.map Violation.bare) :=
  rfl

theorem bare_ofFailure (v : Option Violation) :
    (ofFailure v).bare = ofFailure (v.map Violation.bare) :=
  rfl

theorem bare_failIf (c : Bool) (v : Violation) : (failIf c v).bare = failIf c v.bare := by
  cases c <;> rfl

theorem bare_andThen (a b : Outcome) : (a.andThen b).bare = a.bare.andThen b.bare := by
  rcases a with ⟨as, _ | v⟩
  · simp only [andThen, bare, Option.map_none, List.map_append]
  · rfl

theorem bare_all (os : List Outcome) : (all os).bare = all (os.map bare) := by
  induction os with
  | nil => rfl
  | cons o os ih =>
      have hall : all (o :: os) = o.andThen (all os) := rfl
      rw [hall, bare_andThen, ih]
      rfl

theorem violations_bare (o : Outcome) : o.bare.violations = o.violations.map Violation.bare := by
  rw [violations, violations, bare, List.map_append]
  cases o.failure <;> rfl

end Outcome

/-- Beside the documents, and the payload fields that hold them, the replies are the
same. -/
structure Reply.SameBeside (r r' : Reply) : Prop where
  /-- The request is the same. -/
  request : r.request = r'.request
  /-- What is known of the provider is the same. -/
  metadata : r.metadata = r'.metadata
  /-- The binding is the same. -/
  binding : r.message.received.binding = r'.message.received.binding
  /-- The status of the transport is the same. -/
  status : r.message.received.status = r'.message.received.status
  /-- A relay state was given in both cases or in none. -/
  relayStateGiven : r.message.received.relayStateGiven = r'.message.received.relayStateGiven
  /-- The kind of message is the same. -/
  kind : r.message.kind = r'.message.kind
  /-- All fields but the payload have the same values. -/
  fields : ∀ name, name ≠ r.message.kind.parameter.name →
    r.message.received.fields.get? name = r'.message.received.fields.get? name

/-- The replies differ only in the spelling of their documents, and in the payload field
that holds it. -/
structure Reply.Alike (r r' : Reply) : Prop extends r.SameBeside r' where
  /-- The documents say the same. -/
  root : r.root.Alike r'.root

namespace Reply.Alike

variable {r r' : Reply} (h : r.Alike r')

include h

theorem get? (p : Saml.Parameter) (hp : p ≠ r.message.kind.parameter) :
    r.message.received.get? p = r'.message.received.get? p :=
  h.fields p.name fun hname => hp (Fields.name_injective p _ hname)

theorem hasQuerySignature : r.message.hasQuerySignature = r'.message.hasQuerySignature := by
  have hsignature := h.get? .signature (by cases r.message.kind <;> decide)
  rw [Message.hasQuerySignature, Message.hasQuerySignature, Received.has, Received.has, h.binding,
    hsignature]

theorem isSigned : r.isSigned = r'.isSigned := by
  rw [Reply.isSigned, Reply.isSigned, h.root.hasChild, h.hasQuerySignature]

theorem given : r.relayStateGiven = r'.relayStateGiven := by
  rw [Reply.relayStateGiven, Reply.relayStateGiven, h.request, h.relayStateGiven]

end Reply.Alike

/-- The rule finds the same in replies that are alike, but for the nodes it shows. -/
def Rule.IgnoresSpelling (rule : Rule) : Prop :=
  ∀ r r' : Reply, r.Alike r' → (rule.check r).bare = (rule.check r').bare

/-- A group of rules that ignore spelling finds the same in replies that are alike, but
for the nodes it shows. -/
theorem RuleGroup.map_bare_run (g : RuleGroup) (hg : ∀ rule ∈ g.rules, rule.IgnoresSpelling)
    (r r' : Reply) (h : r.Alike r') :
    (g.run r).map Violation.bare = (g.run r').map Violation.bare := by
  have hrules : (g.rules.map fun rule => rule.check r).map Outcome.bare =
      (g.rules.map fun rule => rule.check r').map Outcome.bare := by
    rw [List.map_map, List.map_map]
    exact List.map_congr_left fun rule hrule => hg rule hrule r r' h
  rw [run, run, Rule.runAll, Rule.runAll, ← Outcome.violations_bare, ← Outcome.violations_bare,
    Outcome.bare_all, Outcome.bare_all, hrules]

end SamlConformance
