import SamlConformance.Text.Blank
import SamlConformance.Text.Cut
import SamlConformance.Text.Hex

/-!
# Sets of Code Points

Properties of characters are given by the Unicode standard as ranges of code
points. A set is written as words: `41-5A` is a range, `AA` a single code point.

## Main definitions

* `words`: The words of a text.
* `CodePoints`: A set as a list of ranges.
* `CodePoints.ofText`: Reads a set.
* `CodePoints.contains`: Membership.
-/

namespace SamlConformance

namespace Unicode

/-- The words of a text, which blanks set apart. -/
def words (s : String) : List (List Char) :=
  (s.toList.splitOnP Text.isBlank).filter fun w => !w.isEmpty

/-- Ranges of code points, the ends included. -/
abbrev CodePoints := List (Nat × Nat)

namespace CodePoints

/-- Reads one range. -/
def range? (word : List Char) : Option (Nat × Nat) :=
  match Text.cutFirst '-' word with
  | (first, none) => (Text.hexNumber? first).map fun n => (n, n)
  | (first, some last) => do return (← Text.hexNumber? first, ← Text.hexNumber? last)

/-- Reads a set. -/
def ofText (s : String) : CodePoints :=
  (words s).filterMap range?

/-- A code point is in the set. -/
def contains (set : CodePoints) (n : Nat) : Bool :=
  set.any fun r => r.1 ≤ n && n ≤ r.2

end CodePoints

end Unicode

end SamlConformance
