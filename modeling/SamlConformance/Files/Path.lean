import SamlConformance.Text.Cut

/-!
# Paths

A path is a text of names set apart by slashes. Empty names and single points say
nothing, two points lead back.

## Main definitions

* `Path.names`: The names of a path.
* `Path.fileName?`, `Path.fileStem?`: The last name, also without its extension.
* `Path.join`: A path below another.
-/

namespace SamlConformance

namespace Path

/-- The names of a path, with those that say nothing. -/
def names (path : String) : List String :=
  (path.toList.splitOn '/').map String.ofList

/-- The last name that says something, unless it leads back. -/
def fileName? (path : String) : Option String :=
  ((names path).filter fun n => n != "" && n != ".").getLast?.filter fun n => n != ".."

/-- The last name up to its last point, which does not count at its beginning. -/
def fileStem? (path : String) : Option String :=
  (fileName? path).map fun name =>
    match Text.cutLast '.' name.toList with
    | some (c :: stem, _) => String.ofList (c :: stem)
    | _ => name

/-- A path below another. -/
def join (base path : String) : String :=
  if base.endsWith "/" then base ++ path else base ++ "/" ++ path

end Path

end SamlConformance
