import SamlConformance.Report.Basic
import SamlConformance.Text.Lines

/-!
# The Printed Report

A report is printed document by document, one status line to a section. Below
the line of a failed section stands the violation it holds, unless the reader
asked for status lines only.

A document whose known sections are just the document itself is printed as one
line; any other document gets a heading, and its sections are set in.

## Main definitions

* `Report.render`: The whole text.
* `Report.Tally`: The numbers of the closing line.
-/

namespace SamlConformance

namespace Report

/-- How many sections there are, and how they came out. -/
structure Tally where
  /-- Sections with a violation in them. -/
  failed : Nat
  /-- Sections never checked. -/
  skipped : Nat
  /-- All known sections. -/
  total : Nat
deriving Repr, DecidableEq

/-- Counts the outcomes of all known sections. -/
def tally (r : Report) : Tally :=
  let statuses := r.knownSections.map r.status
  ⟨statuses.count .failed, statuses.count .skipped, statuses.length⟩

/-- The status line of a section set in by `tabs`, and its violation below. -/
def renderSection (r : Report) (quiet : Bool) (tabs : String) (s : Section) (label : String) :
    String :=
  let status := r.status s
  let line := tabs ++ label ++ ": " ++ status.label ++ "\n"
  if quiet || status != .failed then line
  else
    match r.violationFor? s with
    | none => line
    | some v => line ++ String.join ((Text.lines v.text).map fun l => tabs ++ "\t" ++ l ++ "\n")

/-- What is printed for one document. -/
def renderDocument (r : Report) (quiet : Bool) (d : Document) : String :=
  match r.knownSections.filter fun s => s.document == d with
  | [] => ""
  | sections =>
    if sections.all fun s => s.level == 0 then
      "\n" ++ r.renderSection quiet "" (Section.whole d) d.title
    else
      "\n" ++ d.title ++ "\n" ++
        String.join (sections.map fun s => r.renderSection quiet "\t" s (s.title?.getD s.name))

/-- The heading of the printed report. -/
def heading : String :=
  "SAML Conformance Report\n=======================\n"

/-- The closing lines. -/
def Tally.text (t : Tally) : String :=
  s!"\n{t.failed} of {t.total} sections FAILED, {t.skipped} SKIPPED.\n" ++
    "Sections marked SKIPPED had no checks exercised during this run.\n"

/-- The printed report; `quiet` leaves the violations out. -/
def render (r : Report) (quiet : Bool) : String :=
  heading ++ String.join (Document.all.map (r.renderDocument quiet)) ++ r.tally.text

end Report

end SamlConformance
