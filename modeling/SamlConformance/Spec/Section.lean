import SamlConformance.Text.Cut
import SamlConformance.Text.Decimal

/-!
# Sections of the Specification

The SAML 2.0 documents number their paragraphs. A section is a document with a
path of numbers below it, written `Core.3.4`; it lies within every section
whose path its own path extends. Violations are collected two numbers deep, so
that a clause such as `Core.3.4.1.4_c` counts against `Core.3.4`.

Sections are ordered by document, then by path, a section before those nested
in it. With this order the sections within any given one stand next to each
other in a sorted list.

## Main definitions

* `Document`: The documents clauses come from, in report order.
* `Section`: A document and a path.
* `Section.isWithin`: Nesting by leading path.
* `Section.le`: The report order.
* `Section.name`, `Section.ofName?`: Writing and reading a dotted name.
* `Section.ofClauseId?`: The section a clause identifier counts against.
-/

namespace SamlConformance

/-- The documents a clause can belong to, in report order. -/
inductive Document where
  /-- Rules of no single document, such as the validity of signatures. -/
  | general
  /-- Conformance of a message with the XML schemas. -/
  | schema
  /-- Assertions and Protocols. -/
  | core
  /-- Bindings. -/
  | bindings
  /-- Profiles. -/
  | profiles
deriving Repr, DecidableEq

namespace Document

/-- Every document, in report order. -/
def all : List Document :=
  [general, schema, core, bindings, profiles]

/-- The word that opens the identifiers of its clauses. -/
def name : Document → String
  | general => "General"
  | schema => "Schema"
  | core => "Core"
  | bindings => "Bindings"
  | profiles => "Profiles"

/-- The heading in a report. -/
def title : Document → String
  | general => "General"
  | schema => "XML Schema"
  | core => "SAML Core"
  | bindings => "SAML Bindings"
  | profiles => "SAML Profiles"

/-- The place in report order. -/
def rank : Document → Nat
  | general => 0
  | schema => 1
  | core => 2
  | bindings => 3
  | profiles => 4

/-- The document with a given name. -/
def ofName? (s : String) : Option Document :=
  all.find? fun d => d.name == s

theorem ofName?_name (d : Document) : ofName? d.name = some d := by
  cases d <;> rfl

/-- The documents are listed in the order of their ranks. -/
theorem getElem?_rank (d : Document) : all[d.rank]? = some d := by
  cases d <;> rfl

theorem rank_inj {d e : Document} (h : d.rank = e.rank) : d = e := by
  have hplace := getElem?_rank d
  rw [h, getElem?_rank e] at hplace
  exact (Option.some.inj hplace).symm

end Document

/-- A document with a path of paragraph numbers. -/
structure Section where
  /-- The document the section belongs to. -/
  document : Document
  /-- Paragraph numbers from the outermost on; empty for the whole document. -/
  path : List UInt16
deriving Repr, DecidableEq

namespace Section

/-- How many paragraph numbers of a clause decide where it is counted. -/
def depth : Nat := 2

/-- The section that is a whole document. -/
def whole (d : Document) : Section := ⟨d, []⟩

/-- How deep a section is nested: zero for a document. -/
def level (s : Section) : Nat := s.path.length

/-- A section lies within itself and within what its path extends. -/
def isWithin (s outer : Section) : Bool :=
  s.document == outer.document && outer.path.isPrefixOf s.path

/-- Paths by their first difference; a path stands before its extensions. -/
def pathLe : List UInt16 → List UInt16 → Bool
  | [], _ => true
  | _ :: _, [] => false
  | a :: as, b :: bs => a < b || (a == b && pathLe as bs)

/-- The report order: by document, then by path. -/
def le (s t : Section) : Bool :=
  s.document.rank < t.document.rank || (s.document == t.document && pathLe s.path t.path)

/-- The dotted name. -/
def name (s : Section) : String :=
  s.path.foldl (fun acc n => acc ++ "." ++ toString n.toNat) s.document.name

/-- One number of a dotted name. -/
def number? (cs : List Char) : Option UInt16 :=
  match Text.signedDecimal? cs with
  | some n => if n < 65536 then some (UInt16.ofNat n) else none
  | none => none

/-- The section a dotted name such as `Bindings.3.4` names. -/
def ofName? (s : String) : Option Section :=
  match s.toList.splitOn '.' with
  | [] => none
  | d :: numbers => do
    let document ← Document.ofName? (String.ofList d)
    let path ← numbers.mapM number?
    return ⟨document, path⟩

/-- A clause identifier without its closing letters, as in `Core.3.4.1.4_c`. -/
def withoutLetter (id : List Char) : List Char :=
  match Text.cutLast '_' id with
  | some (before, letters) =>
    if !letters.isEmpty && letters.all Char.isLower then before else id
  | none => id

/-- The section a clause identifier counts against: its document and the first
numbers of its path. -/
def ofClauseId? (id : String) : Option Section :=
  let (d, rest) := Text.cutFirst '.' (withoutLetter id.toList)
  do
    let document ← Document.ofName? (String.ofList d)
    match rest with
    | none => return ⟨document, []⟩
    | some numbers =>
      let path ← ((numbers.splitOn '.').take depth).mapM number?
      return ⟨document, path⟩

/-- The headings of the sections that clauses are counted against. -/
def titles : List (Section × String) :=
  [ (⟨.general, []⟩, "General"),
    (⟨.schema, []⟩, "XML Schema"),
    (⟨.core, [1, 3]⟩, "1.3 Common Data Types"),
    (⟨.core, [2, 3]⟩, "2.3 Assertions"),
    (⟨.core, [2, 5]⟩, "2.5 Conditions"),
    (⟨.core, [2, 7]⟩, "2.7 Statements"),
    (⟨.core, [3, 2]⟩, "3.2 Requests and Responses"),
    (⟨.core, [3, 3]⟩, "3.3 Assertion Query and Request Protocol"),
    (⟨.core, [3, 4]⟩, "3.4 Authentication Request Protocol"),
    (⟨.core, [3, 7]⟩, "3.7 Single Logout Protocol"),
    (⟨.core, [4, 1]⟩, "4.1 SAML Specification Versioning"),
    (⟨.core, [4, 2]⟩, "4.2 SAML Namespace Version"),
    (⟨.core, [5, 4]⟩, "5.4 SAML-Specific XML Signature Processing"),
    (⟨.core, [8, 2]⟩, "8.2 Attribute Name Format Identifiers"),
    (⟨.core, [8, 3]⟩, "8.3 Name Identifier Format Identifiers"),
    (⟨.bindings, [3, 1]⟩, "3.1 General Considerations"),
    (⟨.bindings, [3, 4]⟩, "3.4 HTTP Redirect Binding"),
    (⟨.bindings, [3, 5]⟩, "3.5 HTTP POST Binding"),
    (⟨.profiles, [4, 1]⟩, "4.1 Web Browser SSO Profile"),
    (⟨.profiles, [4, 4]⟩, "4.4 Single Logout Profile") ]

/-- The heading of a section, where one is known. -/
def title? (s : Section) : Option String :=
  titles.lookup s

end Section

end SamlConformance
