import SamlConformance.Spec.Violation
import SamlConformance.Text.Cut
import SamlConformance.Time.Instant
import SamlConformance.Uri.Absolute

/-!
# Values of the Common Types

Texts must not be blank, URI references are absolute, and times are given in
universal time and say so by the letter that closes them. Where a clause of its
own demands such a value, a faulty one breaches that clause first and the one
about the type after it.

## Main definitions

* `Values.isText`, `Values.isUri`, `Values.isUniversalTime`: The three types.
* `Values.textFindings`, `Values.uriFindings`, `Values.timeFindings`: What is
  wrong with a value of that type.
-/

namespace SamlConformance

namespace Values

/-- A value with some content. -/
def isText (value : String) : Bool :=
  !Text.allBlank value

/-- An absolute URI. -/
def isUri (value : String) : Bool :=
  Uri.isAbsolute value

/-- A value that ends the way times in universal time do. -/
def saysUniversal (value : String) : Bool :=
  Text.endsWith "Z" value

/-- A point in time, given in universal time. -/
def isUniversalTime (value : String) : Bool :=
  saysUniversal value && (Instant.parse? value).isSome

/-- A breach of the clause about a type, and first of the clause that demands
such a value, if there is one. -/
def breach (type : Clause) (demanding : Option Clause) (message : String) : Violation :=
  match demanding with
  | some c => (Violation.of c message).also type
  | none => .of type message

/-- What is wrong with a text. -/
def textFindings (value : String) : List Violation :=
  if isText value then []
  else [breach .core_1_3_1_a none s!"The String value of [{value}] is invalid."]

/-- What is wrong with a URI reference that may be missing. -/
def uriFindings (value : Option String) (demanding : Option Clause) : List Violation :=
  let shown := value.getD ""
  if value.any isUri then []
  else [breach .core_1_3_2_a demanding s!"The URI value of [{shown}] is invalid."]

/-- What is wrong with a time. -/
def timeFindings (value : String) (demanding : Option Clause) : List Violation :=
  if isUniversalTime value then []
  else if saysUniversal value then
    [breach .core_1_3_3_a demanding s!"The time date value of [{value}] is invalid."]
  else [breach .core_1_3_3_a demanding s!"The time date value of [{value}] is not in UTC."]

theorem timeFindings_eq_nil_iff {value : String} {demanding : Option Clause} :
    timeFindings value demanding = [] ↔ isUniversalTime value = true := by
  by_cases htime : isUniversalTime value = true
  · rw [timeFindings, if_pos htime]
    exact iff_of_true rfl htime
  · rw [timeFindings, if_neg htime]
    refine iff_of_false ?_ htime
    -- What is said about it depends on whether it claims to be in universal time.
    by_cases hsays : saysUniversal value = true
    · rw [if_pos hsays]
      exact List.cons_ne_nil _ _
    · rw [if_neg hsays]
      exact List.cons_ne_nil _ _

theorem uriFindings_eq_nil_iff {value : Option String} {demanding : Option Clause} :
    uriFindings value demanding = [] ↔ value.any isUri = true := by
  by_cases huri : value.any isUri = true
  · rw [uriFindings, if_pos huri]
    exact iff_of_true rfl huri
  · rw [uriFindings, if_neg huri]
    exact iff_of_false (List.cons_ne_nil _ _) huri

theorem textFindings_eq_nil_iff {value : String} :
    textFindings value = [] ↔ isText value = true := by
  by_cases htext : isText value = true
  · rw [textFindings, if_pos htext]
    exact iff_of_true rfl htext
  · rw [textFindings, if_neg htext]
    exact iff_of_false (List.cons_ne_nil _ _) htext

end Values

end SamlConformance
