import SamlConformance.Rule.Basic
import SamlConformance.Rule.Values
import SamlConformance.Saml.Parts

/-!
# Assertions

What every assertion must have, wherever it stands below the document element,
and what its conditions must not have.

## Main definitions

* `Assertion.structureOf`: Version, identifier, time of issue, issuer, content.
* `Assertion.conditionsFault?`: What is wrong with conditions.
* `Assertion.statementsFault?`: A statement about nobody.
-/

namespace SamlConformance

namespace Assertion

open Xml (Element)

/-- The assertion has a child of that name. -/
def has (assertion : Element) (name : String) : Bool :=
  assertion.hasChild Saml.assertionNs name

/-- The assertion makes a statement. -/
def hasStatement (assertion : Element) : Bool :=
  ["Statement", "AuthnStatement", "AuthzDecisionStatement", "AttributeStatement"].any
    (has assertion)

/-- The issuer and the content of an assertion. -/
def contentOf (assertion : Element) : Outcome :=
  let issuers := (Saml.issuers assertion).length
  if issuers ≠ 1 then
    .fail ((Violation.of .core_2_3_3_d
      s!"{issuers} <Issuer> element(s) were found under Assertion.").shownAt assertion)
  else
    .failIf (!hasStatement assertion && !Saml.hasSubject assertion)
      ((Violation.of .core_2_3_3_e "No Subject or Statement elements found.").shownAt assertion)

/-- What every assertion must have. -/
def structureOf (assertion : Element) : Outcome :=
  let version := assertion.attribute? "Version"
  if version ≠ some Saml.version then
    .fail (((Violation.mismatch .core_2_3_3_a "Version" version Saml.version).also
      .core_4_1_2_a).shownAt assertion)
  else if (assertion.attribute? "ID").isNone then
    .fail ((Violation.of .core_2_3_3_b "The <Assertion> element has no ID attribute.").shownAt
      assertion)
  else
    match assertion.attribute? "IssueInstant" with
    | none =>
      .fail ((Violation.of .core_2_3_3_c
        "The <Assertion> element has no IssueInstant attribute.").shownAt assertion)
    | some issued =>
      (Outcome.report (Values.timeFindings issued (some .core_2_3_3_c))).andThen
        (contentOf assertion)

/-- Looks at what every assertion must have. -/
def checkStructure (r : Reply) : Outcome :=
  .all ((Saml.assertionsBelow r.root).map structureOf)

/-- The time in an attribute, if it can be read. -/
def instant? (e : Element) (name : String) : Option Instant :=
  (e.attribute? name).bind Instant.parse?

/-- The violation of conditions that end no later than they begin. -/
def period? (conditions : Element) : Option Violation :=
  match instant? conditions "NotBefore", instant? conditions "NotOnOrAfter" with
  | some start, some finish =>
    if start.isBefore finish then none
    else
      some ((Violation.of .core_2_5_1_2_a (s!"NotBefore element with value {start.text}" ++
        s!" is not less than NotOnOrAfter element with value {finish.text}.")).shownAt conditions)
  | _, _ => none

/-- The violation of conditions that hold an element more than once. -/
def repeated? (conditions : Element) (name : String) (c : Clause) : Option Violation :=
  if (conditions.childrenNamed Saml.assertionNs name).length > 1 then
    some ((Violation.of c s!"Cannot have more than one {name} element.").shownAt conditions)
  else none

/-- The first thing that is wrong with conditions. -/
def conditionsFault? (conditions : Element) : Option Violation :=
  (period? conditions).or ((repeated? conditions "OneTimeUse" .core_2_5_1_b).or
    (repeated? conditions "ProxyRestriction" .core_2_5_1_c))

/-- Looks at all conditions. -/
def checkConditions (r : Reply) : Outcome :=
  .ofFailure ((r.root.descendantsNamed Saml.assertionNs "Conditions").findSome? conditionsFault?)

/-- The violation of an assertion that makes a statement about nobody. -/
def statementsFault? (assertion : Element) : Option Violation :=
  if Saml.hasSubject assertion then none
  else if has assertion "AuthnStatement" then
    some ((Violation.of .core_2_7_2_a
      "An <Assertion> with an <AuthnStatement> has no <Subject>.").shownAt assertion)
  else if has assertion "AttributeStatement" then
    some ((Violation.of .core_2_7_3_a
      "An <Assertion> with an <AttributeStatement> has no <Subject>.").shownAt assertion)
  else none

/-- Looks at the statements of all assertions. -/
def checkStatements (r : Reply) : Outcome :=
  .ofFailure ((Saml.assertionsBelow r.root).findSome? statementsFault?)

/-- The rules. -/
def rules : List Rule :=
  [⟨"assertion_structure", checkStructure⟩, ⟨"conditions", checkConditions⟩,
    ⟨"statements", checkStatements⟩]

end Assertion

end SamlConformance
