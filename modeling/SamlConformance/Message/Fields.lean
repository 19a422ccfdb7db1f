import SamlConformance.Text.Cut

/-!
# Fields

The parameters of a query or the controls of a form, exactly as received: in
order, with repetitions, and with nothing decoded, because signatures cover the
text that was sent. Where a name stands more than once, the first counts.

## Main definitions

* `Fields`: Names and values in order.
* `Fields.ofQuery`: The fields of a query text.
* `Fields.get?`: The first value of a name.
-/

namespace SamlConformance

/-- Names and values as received. -/
abbrev Fields := List (String × String)

namespace Fields

/-- The first value of a name. -/
def get? (fields : Fields) (name : String) : Option String :=
  fields.lookup name

/-- A value of that name is present. -/
def has (fields : Fields) (name : String) : Bool :=
  (fields.get? name).isSome

/-- One parameter of a query; without an equals sign its value is empty. -/
def parameter (segment : List Char) : String × String :=
  let (name, value) := Text.cutFirst '=' segment
  (String.ofList name, String.ofList (value.getD []))

/-- The parameters of a query given as characters. -/
def ofQueryChars (cs : List Char) : Fields :=
  (((cs.dropWhile (· == '?')).splitOn '&').filter fun s => !s.isEmpty).map parameter

/-- The parameters of a query. Question marks in front do not count, and neither
do empty parameters. -/
def ofQuery (query : String) : Fields :=
  ofQueryChars query.toList

end Fields

end SamlConformance
