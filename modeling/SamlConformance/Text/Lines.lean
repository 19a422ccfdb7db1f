/-!
# Lines

## Main definitions

* `lines`: The lines of a text without their ends.
-/

namespace SamlConformance

namespace Text

/-- A line without the carriage return that may close it. -/
def withoutReturn (line : List Char) : List Char :=
  if line.getLast? = some '\r' then line.dropLast else line

/-- The lines of a text. A line ends with a line feed, before which a carriage
return may stand; the last line may have no end, and an empty one after the
last end does not count. -/
def lines (s : String) : List String :=
  let pieces := s.toList.splitOn '\n'
  let closed := pieces.dropLast.map withoutReturn
  match pieces.getLast? with
  | some (c :: cs) => (closed ++ [c :: cs]).map String.ofList
  | _ => closed.map String.ofList

end Text

end SamlConformance
