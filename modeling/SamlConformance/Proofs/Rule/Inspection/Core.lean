import SamlConformance.Proofs.Rule.Identity
import SamlConformance.Proofs.Rule.Inspection.Basic
import SamlConformance.Rule.Groups

/-!
# The Core Rules on One List

The rules about assertions and common types, written as steps on the one list of findings that
all rules of a group share. They loop over elements and put what they find on the list as they
go, they keep sets of what they have seen, and they break off in the middle of a loop. None of
it shows in the outcomes, where what is found is counted, searched for and put together in one
go. So each step is shown to carry its outcome, part by part, from the helpers that look at one
value up to the rule.

Two of the steps do not follow the outcome they carry. The one that looks for identifiers has
two sets where the outcome counts, which `repeatedWith_eq` settles. The one that looks for
queries has one set and breaks off at the first value that is in it; the set holds no value
twice, so being in it means having been counted once.

## Main definitions

* `Values.inspectText`, `Values.inspectUri`, `Values.inspectTime`: Looking at one value.
* `Inspector.core`: The core rules as steps.

## Theorems

* `DataTypes.carries_inspect`, `Assertion.carries_inspectStructure`: Steps that go on after
  what they report.
* `AttributeName.carries_inspectQuery`: One set finds the first repeated value.
* `Inspector.carries_core`: Every core rule is carried by its step.
-/

namespace SamlConformance

open Xml (Element)
open Inspection

namespace Values

def inspectText (value : String) : Inspection Unit :=
  reportUnless (isText value)
    (breach .core_1_3_1_a none s!"The String value of [{value}] is invalid.")

/-- Looks at a URI reference that may be missing. -/
def inspectUri (value : Option String) (demanding : Option Clause) : Inspection Unit :=
  let shown := value.getD ""
  reportUnless (value.any isUri)
    (breach .core_1_3_2_a demanding s!"The URI value of [{shown}] is invalid.")

def inspectTime (value : String) (demanding : Option Clause) : Inspection Unit :=
  if isUniversalTime value then pure ()
  else if saysUniversal value then
    report (breach .core_1_3_3_a demanding s!"The time date value of [{value}] is invalid.")
  else
    report (breach .core_1_3_3_a demanding s!"The time date value of [{value}] is not in UTC.")

theorem carries_inspectText (value : String) :
    (inspectText value).Carries (.report (textFindings value)) :=
  carries_reportUnless _ _

theorem carries_inspectUri (value : Option String) (demanding : Option Clause) :
    (inspectUri value demanding).Carries (.report (uriFindings value demanding)) :=
  carries_reportUnless _ _

theorem carries_inspectTime (value : String) (demanding : Option Clause) :
    (inspectTime value demanding).Carries (.report (timeFindings value demanding)) :=
  carries_ite .report _ carries_pure
    (carries_ite .report _ (carries_report _) (carries_report _))

end Values

namespace DataTypes

def inspectTyped (e : Element) : Inspection Unit :=
  match e.attributeIn? Saml.instanceNs "type" with
  | none => pure ()
  | some type =>
    if Text.occursIn "string" type then Values.inspectText e.text
    else if Text.occursIn "anyURI" type then Values.inspectUri (some e.text) none
    else if Text.occursIn "dateTime" type then Values.inspectTime e.text none
    else pure ()

def inspectTimeIn (e : Element) (name : String) : Inspection Unit :=
  match e.attribute? name with
  | none => pure ()
  | some value => Values.inspectTime value none

def inspectTimes (e : Element) : Inspection Unit := do
  timeAttributes.forM (inspectTimeIn e)
  if e.is Saml.assertionNs "Assertion" then pure () else inspectTimeIn e "IssueInstant"

/-- Looks at identifiers, with those that were seen and those that were reported. -/
def inspectIds (seen reported : List String) : List String → Inspection Unit
  | [] => pure ()
  | id :: ids =>
    if seen.contains id then
      if reported.contains id then inspectIds seen reported ids
      else do
        report (notUnique id)
        inspectIds seen (id :: reported) ids
    else inspectIds (id :: seen) reported ids

def inspect (r : Reply) : Inspection Unit := do
  r.root.self.forM inspectTyped
  r.root.descendants.forM inspectTimes
  inspectIds [] [] (ids r.root)

theorem carries_inspectTyped (e : Element) :
    (inspectTyped e).Carries (.report (typedFindings e)) := by
  unfold inspectTyped typedFindings
  cases e.attributeIn? Saml.instanceNs "type" with
  | none => exact carries_pure
  | some type =>
      exact carries_ite .report _ (Values.carries_inspectText _)
        (carries_ite .report _ (Values.carries_inspectUri _ _)
          (carries_ite .report _ (Values.carries_inspectTime _ _) carries_pure))

theorem carries_inspectTimeIn (e : Element) (name : String) :
    (inspectTimeIn e name).Carries (.report (timeFindings e name)) := by
  unfold inspectTimeIn timeFindings
  cases e.attribute? name with
  | none => exact carries_pure
  | some value => exact Values.carries_inspectTime value none

theorem carries_inspectTimes (e : Element) :
    (inspectTimes e).Carries (.report (timesFindings e)) :=
  carries_bind_report (carries_forM_report _ (carries_inspectTimeIn e))
    (carries_ite .report _ carries_pure (carries_inspectTimeIn e _))

theorem carries_inspectIds (seen reported ids : List String) :
    (inspectIds seen reported ids).Carries
      (.report ((repeatedWith seen reported ids).map notUnique)) := by
  -- The step and the list keep the same two sets, and so they take the same branches.
  induction ids generalizing seen reported with
  | nil => exact carries_pure
  | cons id ids ih =>
      rw [inspectIds, repeatedWith]
      by_cases hseen : seen.contains id
      · rw [if_pos hseen, if_pos hseen]
        by_cases hreported : reported.contains id
        · rw [if_pos hreported, if_pos hreported]
          exact ih seen reported
        · rw [if_neg hreported, if_neg hreported]
          exact carries_bind_report (carries_report _) (ih seen (id :: reported))
      · rw [if_neg hseen, if_neg hseen]
        exact ih (id :: seen) reported

theorem carries_inspect (r : Reply) : (inspect r).Carries (check r) := by
  -- Before the first identifier both sets are empty, and nothing has been counted.
  have hnone : ∀ n, 1 ≤ n → ∀ x : String, x ∈ [] ↔ n ≤ List.count x [] := by
    intro n hn x
    rw [List.count_nil]
    exact iff_of_false List.not_mem_nil (by omega)
  have hids := carries_inspectIds [] [] (ids r.root)
  rw [repeatedWith_eq [] [] [] (ids r.root) (hnone 1 (by omega)) (hnone 2 (by omega))] at hids
  have htyped := carries_forM_report r.root.self carries_inspectTyped
  have htimes := carries_forM_report r.root.descendants carries_inspectTimes
  have hall := carries_bind_report htyped (carries_bind_report htimes hids)
  rw [← List.append_assoc] at hall
  exact hall

end DataTypes

namespace Versions

def inspectStated (r : Reply) : Inspection Unit :=
  match r.root.attribute? "Version" with
  | none => pure ()
  | some version =>
    reportUnless (Text.allBlank version || version == Saml.version)
      ((Violation.mismatch .core_4_1_2_a "Version" (some version) Saml.version).shownAt r.root)

def inspectNamespaces (r : Reply) : Inspection Unit :=
  reportUnless (r.root.tag.name.uri.any isCurrent && (outdated? r.root).isNone)
    ((Violation.of .core_4_2_a "A namespace URI with an incorrect version was found.").shownAt
      ((outdated? r.root).getD r.root))

theorem carries_inspectStated (r : Reply) : (inspectStated r).Carries (statedVersion r) := by
  unfold inspectStated statedVersion
  cases r.root.attribute? "Version" with
  | none => exact carries_pure
  | some version => exact carries_ite id _ carries_pure (carries_report _)

theorem carries_inspectNamespaces (r : Reply) :
    (inspectNamespaces r).Carries (namespaceVersion r) :=
  carries_ite id _ carries_pure (carries_report _)

end Versions

namespace SignatureReference

def inspectSignature (signed signature : Element) : Inspection Unit :=
  match signature.descendantsNamed Saml.signatureNs "Reference" with
  | [reference] =>
    match reference.attribute? "URI" with
    | none => report (.of .core_5_4_2_a "URI attribute not found.")
    | some uri =>
      reportUnless (uri = referenceTo signed)
        ((Violation.mismatch .core_5_4_2_a "URI" (some uri) (referenceTo signed)).shownAt
          signature)
  | references =>
    report (.of .core_5_4_2_a
      s!"A signature needs to have exactly one Reference, {references.length} found.")

def inspect (r : Reply) : Inspection Unit :=
  r.root.self.forM fun e => (signatures e).forM (inspectSignature e)

theorem carries_inspectSignature (signed signature : Element) :
    (inspectSignature signed signature).Carries (.report (findings signed signature)) := by
  unfold inspectSignature findings
  rcases signature.descendantsNamed Saml.signatureNs "Reference" with
    _ | ⟨reference, _ | ⟨second, more⟩⟩
  · exact carries_report _
  · dsimp only
    cases reference.attribute? "URI" with
    | none => exact carries_report _
    | some uri => exact carries_reportUnless _ _
  · exact carries_report _

theorem carries_inspect (r : Reply) : (inspect r).Carries (check r) :=
  carries_forM_report _ fun e => carries_forM_report _ (carries_inspectSignature e)

end SignatureReference

namespace Assertion

def inspectContent (a : Element) : Inspection Unit :=
  let issuers := (Saml.issuers a).length
  if issuers ≠ 1 then
    throw ((Violation.of .core_2_3_3_d
      s!"{issuers} <Issuer> element(s) were found under Assertion.").shownAt a)
  else
    stopIf (!hasStatement a && !Saml.hasSubject a)
      ((Violation.of .core_2_3_3_e "No Subject or Statement elements found.").shownAt a)

def inspectAssertion (a : Element) : Inspection Unit :=
  let version := a.attribute? "Version"
  if version ≠ some Saml.version then
    throw (((Violation.mismatch .core_2_3_3_a "Version" version Saml.version).also
      .core_4_1_2_a).shownAt a)
  else if (a.attribute? "ID").isNone then
    throw ((Violation.of .core_2_3_3_b "The <Assertion> element has no ID attribute.").shownAt a)
  else
    match a.attribute? "IssueInstant" with
    | none =>
      throw ((Violation.of .core_2_3_3_c
        "The <Assertion> element has no IssueInstant attribute.").shownAt a)
    | some issued => do
      -- A faulty time is reported only, and the assertion is looked at further.
      Values.inspectTime issued (some .core_2_3_3_c)
      inspectContent a

def inspectStructure (r : Reply) : Inspection Unit :=
  (Saml.assertionsBelow r.root).forM inspectAssertion

def inspectConditions (r : Reply) : Inspection Unit :=
  (r.root.descendantsNamed Saml.assertionNs "Conditions").forM fun conditions => do
    stop (period? conditions)
    stop (repeated? conditions "OneTimeUse" .core_2_5_1_b)
    stop (repeated? conditions "ProxyRestriction" .core_2_5_1_c)

def inspectStatements (r : Reply) : Inspection Unit :=
  (Saml.assertionsBelow r.root).forM fun a => stop (statementsFault? a)

theorem carries_inspectContent (a : Element) : (inspectContent a).Carries (contentOf a) :=
  carries_ite id _ (carries_throw _) (carries_stopIf _ _)

theorem carries_inspectAssertion (a : Element) :
    (inspectAssertion a).Carries (structureOf a) := by
  unfold inspectAssertion structureOf
  refine carries_ite id _ (carries_throw _) (carries_ite id _ (carries_throw _) ?_)
  cases a.attribute? "IssueInstant" with
  | none => exact carries_throw _
  | some issued =>
      exact carries_bind (Values.carries_inspectTime _ _) (carries_inspectContent a)

theorem carries_inspectStructure (r : Reply) : (inspectStructure r).Carries (checkStructure r) :=
  carries_forM _ carries_inspectAssertion

theorem carries_inspectConditions (r : Reply) :
    (inspectConditions r).Carries (checkConditions r) :=
  carries_forM_stop _ fun _ =>
    carries_bind_stop (carries_stop _) (carries_bind_stop (carries_stop _) (carries_stop _))

theorem carries_inspectStatements (r : Reply) :
    (inspectStatements r).Carries (checkStatements r) :=
  carries_forM_stop _ fun _ => carries_stop _

end Assertion

namespace AttributeName

/-- The violation of a query that asks for a name twice. -/
def asksTwice (query : Element) (asked : String × String) : Violation :=
  (Violation.of .core_3_3_2_3_a ("The <AttributeQuery> contains more than one <Attribute>" ++
    s!" with Name [{asked.1}] and NameFormat [{asked.2}].")).shownAt query

/-- Looks at the attributes of a query, with what was asked for before. -/
def inspectQuery (query : Element) (seen : List (String × String)) :
    List Element → Inspection Unit
  | [] => pure ()
  | a :: rest =>
    if seen.contains (identity a) then throw (asksTwice query (identity a))
    else inspectQuery query (identity a :: seen) rest

def inspectQueries (r : Reply) : Inspection Unit :=
  (r.root.self.filter fun e => e.is Saml.protocolNs "AttributeQuery").forM fun query =>
    inspectQuery query [] (query.childrenNamed Saml.assertionNs "Attribute")

def inspectFormats (r : Reply) : Inspection Unit :=
  (r.root.descendantsNamed Saml.assertionNs "Attribute").forM fun a => stop (formatFault? a)

/-- As long as no value has been seen twice, the first one that is seen again is the first
repeated one. -/
theorem carries_inspectQuery (query : Element) (seen : List (String × String))
    (hseen : seen.Nodup) (rest : List Element) :
    (inspectQuery query seen rest).Carries
      (.ofFailure ((repeatedAfter seen (rest.map identity)).head?.map (asksTwice query))) := by
  induction rest generalizing seen with
  | nil => exact carries_pure
  | cons a rest ih =>
      rw [inspectQuery, List.map_cons, repeatedAfter]
      by_cases hold : identity a ∈ seen
      · -- The rest is not looked at, and it does not matter to the first repeated value.
        rw [if_pos (List.contains_iff_mem.mpr hold),
          if_pos (List.count_eq_one_of_mem hseen hold)]
        exact carries_throw _
      · have hnone : seen.count (identity a) ≠ 1 := by
          rw [List.count_eq_zero_of_not_mem hold]
          decide
        rw [if_neg (fun h => hold (List.contains_iff_mem.mp h)), if_neg hnone]
        exact ih (identity a :: seen) (List.nodup_cons.mpr ⟨hold, hseen⟩)

theorem carries_inspectQueries (r : Reply) : (inspectQueries r).Carries (checkQueries r) :=
  carries_forM_stop _ fun query => carries_inspectQuery query [] List.nodup_nil _

theorem carries_inspectFormats (r : Reply) : (inspectFormats r).Carries (checkFormats r) :=
  carries_forM_stop _ fun _ => carries_stop _

end AttributeName

namespace Identifier

def inspectFormat (format : Saml.NameIdFormat) (step : Reply → Element → Inspection Unit)
    (r : Reply) : Inspection Unit :=
  (Saml.namedBy r.root format).forM (step r)

theorem carries_inspectFormat {format : Saml.NameIdFormat}
    {step : Reply → Element → Inspection Unit} {fault? : Reply → Element → Option Violation}
    (h : ∀ r e, (step r e).Carries (.ofFailure (fault? r e))) (r : Reply) :
    (inspectFormat format step r).Carries (checkFormat format fault? r) :=
  carries_forM_stop _ (h r)

end Identifier

namespace Inspector

/-- The rules about assertions and common types as steps. -/
def core : List Inspector :=
  [ ⟨"common_data_types", DataTypes.inspect⟩,
    ⟨"versioning", Versions.inspectStated⟩,
    ⟨"namespaces", Versions.inspectNamespaces⟩,
    ⟨"signature_references", SignatureReference.inspect⟩,
    ⟨"assertion_structure", Assertion.inspectStructure⟩,
    ⟨"conditions", Assertion.inspectConditions⟩,
    ⟨"statements", Assertion.inspectStatements⟩,
    ⟨"attribute_query", AttributeName.inspectQueries⟩,
    ⟨"attribute_name_formats", AttributeName.inspectFormats⟩,
    ⟨"email_identifiers", Identifier.inspectFormat .email fun _ e =>
      stop (Identifier.emailFault? e)⟩,
    ⟨"entity_identifiers", Identifier.inspectFormat .entity fun _ e =>
      stop (Identifier.entityFault? e)⟩,
    ⟨"persistent_identifiers", Identifier.inspectFormat .persistent fun r e => do
      stop (Identifier.lengthFault? "Persistent" .core_8_3_7_a e)
      stop (Identifier.qualifierFault? r.metadata.entityId e)⟩,
    ⟨"transient_identifiers", Identifier.inspectFormat .transient fun _ e =>
      stop (Identifier.lengthFault? "Transient" .core_8_3_8_a e)⟩ ]

/-- Every core rule is carried by its step. -/
theorem carries_core : List.Forall₂ Carries core RuleGroup.core.rules :=
  .cons ⟨rfl, DataTypes.carries_inspect⟩ <|
  .cons ⟨rfl, Versions.carries_inspectStated⟩ <|
  .cons ⟨rfl, Versions.carries_inspectNamespaces⟩ <|
  .cons ⟨rfl, SignatureReference.carries_inspect⟩ <|
  .cons ⟨rfl, Assertion.carries_inspectStructure⟩ <|
  .cons ⟨rfl, Assertion.carries_inspectConditions⟩ <|
  .cons ⟨rfl, Assertion.carries_inspectStatements⟩ <|
  .cons ⟨rfl, AttributeName.carries_inspectQueries⟩ <|
  .cons ⟨rfl, AttributeName.carries_inspectFormats⟩ <|
  .cons ⟨rfl, Identifier.carries_inspectFormat fun _ _ => carries_stop _⟩ <|
  .cons ⟨rfl, Identifier.carries_inspectFormat fun _ _ => carries_stop _⟩ <|
  .cons ⟨rfl, Identifier.carries_inspectFormat fun _ _ =>
    carries_bind_stop (carries_stop _) (carries_stop _)⟩ <|
  .cons ⟨rfl, Identifier.carries_inspectFormat fun _ _ => carries_stop _⟩ .nil

end Inspector

end SamlConformance
