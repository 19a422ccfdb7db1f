import SamlConformance.Spec.Clause

/-!
# Violations

One detected defect, with every clause it breaches. The type makes a violation
breach at least one clause: the first is a field of its own, and `also` adds
further ones without repeating any.

## Main definitions

* `Violation`: The breached clauses, an explanation, and what may illustrate it.
* `Violation.mismatch`, `Violation.invalid`: The two standard explanations.
* `Violation.sections`: The sections the violation counts against.
* `Violation.text`: The full wording, as reports print it.
-/

namespace SamlConformance

/-- One detected defect of a message. -/
structure Violation where
  /-- The clause that was checked. -/
  clause : Clause
  /-- Further clauses the defect breaches. -/
  further : List Clause := []
  /-- What is wrong. -/
  message : String
  /-- The offending element or attribute in writing. -/
  context : Option String := none
  /-- The wording of the error that revealed the defect. -/
  cause : Option String := none
deriving Repr, DecidableEq

namespace Violation

/-- A breach of one clause. -/
def of (clause : Clause) (message : String) : Violation :=
  ⟨clause, [], message, none, none⟩

/-- How an explanation shows a value that may be missing. -/
def shown (actual : Option String) : String :=
  actual.getD "[absent]"

/-- A property has another value than the one expected. -/
def mismatch (clause : Clause) (property : String) (actual : Option String)
    (expected : String) : Violation :=
  of clause s!"The {property} value of [{shown actual}] is not equal to [{expected}]."

/-- A property has a value it must not have. -/
def invalid (clause : Clause) (property : String) (actual : Option String) : Violation :=
  of clause s!"The {property} value of [{shown actual}] is invalid."

/-- The breached clauses in the order they were attached. -/
def clauses (v : Violation) : List Clause :=
  v.clause :: v.further

/-- The same defect, breaching one more clause. -/
def also (v : Violation) (c : Clause) : Violation :=
  if v.clauses.contains c then v else { v with further := v.further ++ [c] }

/-- The same defect, shown at its place. -/
def showing (v : Violation) (context : String) : Violation :=
  { v with context := some context }

/-- The same defect, with the error that revealed it. -/
def because (v : Violation) (cause : String) : Violation :=
  { v with cause := some cause }

/-- The defect breaches a given clause. -/
def breaches (v : Violation) (c : Clause) : Bool :=
  v.clauses.contains c

/-- The sections the violation counts against, each once, in clause order. -/
def sections (v : Violation) : List Section :=
  (v.clauses.map Clause.toSection).eraseDups

/-- The explanation, its cause, the breached clauses and the offending node. -/
def text (v : Violation) : String :=
  let cause := match v.cause with
    | some c => "Cause: " ++ c ++ "\n"
    | none => ""
  let references := String.join (v.clauses.map fun c => "\n" ++ c.reference)
  let node := match v.context with
    | some c => "\n\nOffending node:\n" ++ c
    | none => ""
  v.message ++ "\n" ++ cause ++ "\nSAML Specification References:" ++ references ++ node

end Violation

end SamlConformance
