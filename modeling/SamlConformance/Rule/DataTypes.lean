import SamlConformance.Rule.Basic
import SamlConformance.Rule.Repetition
import SamlConformance.Rule.Values

/-!
# Common Data Types

The rule that looks at values wherever they stand: at content whose type is
stated, at the attributes that hold times, and at identifiers.

The time of issue of the document element, and of assertions, is demanded by
clauses of their own, and is left to the rules about these.

## Main definitions

* `DataTypes.typedFindings`: What is wrong with content of a stated type.
* `DataTypes.timesFindings`: What is wrong with the times of an element.
* `DataTypes.idFindings`: The identifiers that are not unique.
-/

namespace SamlConformance

namespace DataTypes

open Xml (Element)

/-- What is wrong with the content of an element that states its type. -/
def typedFindings (e : Element) : List Violation :=
  match e.attributeIn? Saml.instanceNs "type" with
  | none => []
  | some type =>
    if Text.occursIn "string" type then Values.textFindings e.text
    else if Text.occursIn "anyURI" type then Values.uriFindings (some e.text) none
    else if Text.occursIn "dateTime" type then Values.timeFindings e.text none
    else []

/-- The attributes that hold a time, on whatever element they stand. -/
def timeAttributes : List String :=
  ["NotBefore", "NotOnOrAfter", "AuthnInstant", "SessionNotOnOrAfter"]

/-- What is wrong with a time in an attribute, if it is there. -/
def timeFindings (e : Element) (name : String) : List Violation :=
  match e.attribute? name with
  | none => []
  | some value => Values.timeFindings value none

/-- What is wrong with the times in the attributes of an element. -/
def timesFindings (e : Element) : List Violation :=
  timeAttributes.flatMap (timeFindings e) ++
    if e.is Saml.assertionNs "Assertion" then [] else timeFindings e "IssueInstant"

/-- The identifiers below and on an element, in document order. -/
def ids (root : Element) : List String :=
  root.self.filterMap fun e => e.attribute? "ID"

/-- The finding that an identifier is not unique. -/
def notUnique (id : String) : Violation :=
  .of .core_1_3_4_a s!"The ID value of [{id}] is not unique."

/-- The identifiers that are not unique. -/
def idFindings (root : Element) : List Violation :=
  (repeatedValues (ids root)).map notUnique

/-- Looks at all values of the common types. -/
def check (r : Reply) : Outcome :=
  .report (r.root.self.flatMap typedFindings ++ r.root.descendants.flatMap timesFindings ++
    idFindings r.root)

/-- The rule. -/
def rule : Rule := ⟨"common_data_types", check⟩

end DataTypes

end SamlConformance
