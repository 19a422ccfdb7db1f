import SamlConformance.Check
import SamlConformance.CommandLine.Reader
import SamlConformance.CommandLine.Table
import SamlConformance.Json.Printer
import SamlConformance.Spec.Clause

/-!
# Listings

What commands list is shown as a table or as a JSON value. A listing knows the
titles of its columns and the names of the same columns in JSON.

## Main definitions

* `Listing`: Rows of cells with titles and names.
* `Listing.text`: The text of a listing in a format.
* `Listing.ofClauses`, `Listing.ofRows`: The listings of the commands.
-/

namespace SamlConformance

/-- Rows of cells. -/
structure Listing where
  /-- The name in JSON and the title in a table of each column. -/
  columns : List (String × String)
  /-- The cells of each row. -/
  rows : List (List String)
deriving Repr, DecidableEq

namespace Listing

/-- The listing as a JSON value. -/
def toJson (l : Listing) : Json.Value :=
  .array (l.rows.map fun row =>
    .object (List.zipWith (fun column cell => (column.1, .string cell)) l.columns row))

/-- The listing as a table. -/
def toTable (l : Listing) : String :=
  if l.rows.isEmpty then "ℹ No results found.\n"
  else Table.draw (l.columns.map Prod.snd) l.rows

/-- The text of a listing in a format. -/
def text (l : Listing) : CommandLine.Format → String
  | .table => l.toTable
  | .json => l.toJson.pretty ++ "\n"

/-- The clauses of a document, or all. -/
def clauses (document : Option Document) : List Clause :=
  Clause.all.filter fun c => document.all fun d => c.place.document == d

/-- Clauses with what they ask for. -/
def ofClauses (cs : List Clause) : Listing where
  columns := [("code", "Code"), ("section", "Section"), ("message", "Message")]
  rows := cs.map fun c => [c.id, c.toSection.name, c.wording]

/-- What came of tests. -/
def ofRows (rows : List CheckRow) : Listing where
  columns := [("name", "Test"), ("outcome", "Result"), ("details", "Details")]
  rows := rows.map fun r => [r.name, r.verdict.label, r.details]

end Listing

end SamlConformance
