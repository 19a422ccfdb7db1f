/-!
# Blank Characters

Blankness as the Unicode property White_Space sees it. Values that travel
through browsers and metadata pick up spaces of every kind, so the narrow
ASCII reading would accept a no-break space as content.

A set of twenty-five code points is fixed by the standard and never grows,
which is why it is written out here and not read from a table.

## Main definitions

* `isBlank`: One of the White_Space code points.
* `isAsciiBlank`: The five ASCII blanks that separate words in markup.
* `trimmed`: A text without the blanks at its ends.
-/

namespace SamlConformance

namespace Text

/-- A code point with the Unicode property White_Space. -/
def isBlank (c : Char) : Bool :=
  let n := c.toNat
  (0x09 ≤ n && n ≤ 0x0D) || n == 0x20 || n == 0x85 || n == 0xA0 || n == 0x1680 ||
    (0x2000 ≤ n && n ≤ 0x200A) || n == 0x2028 || n == 0x2029 || n == 0x202F ||
    n == 0x205F || n == 0x3000

/-- Space, tab, line feed, form feed and carriage return. -/
def isAsciiBlank (c : Char) : Bool :=
  c == ' ' || c == '\t' || c == '\n' || c == '\x0c' || c == '\r'

/-- The blanks at the two ends go, those inside stay. -/
def trimmed (cs : List Char) : List Char :=
  ((cs.dropWhile isBlank).reverse.dropWhile isBlank).reverse

/-- `trimmed` on strings. -/
def trim (s : String) : String :=
  String.ofList (trimmed s.toList)

/-- Nothing but blanks, the empty text included. -/
def allBlank (s : String) : Bool :=
  s.toList.all isBlank

/-- Some character is blank. -/
def anyBlank (s : String) : Bool :=
  s.toList.any isBlank

/-- The text with every blank taken out. -/
def withoutBlanks (s : String) : String :=
  String.ofList (s.toList.filter fun c => !isBlank c)

theorem withoutBlanks_of_not_anyBlank {s : String} (h : anyBlank s = false) :
    withoutBlanks s = s := by
  have hall : ∀ c ∈ s.toList, (!isBlank c) = true := by
    intro c hc
    have := List.any_eq_false.1 h c hc
    simpa using this
  simp only [withoutBlanks, List.filter_eq_self.2 hall, String.ofList_toList]

end Text

end SamlConformance
