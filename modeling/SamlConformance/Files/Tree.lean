import SamlConformance.Files.Basic
import SamlConformance.Files.Path

/-!
# Files in Memory

A tree of files is a list of contents by place, a place being the names that lead
from the root. Directories are implied by what is in them; empty ones are listed.

Where a path leads is found by walking along its names. Every name but the last
has to lead to a directory, even if the next one leads back.

## Main definitions

* `FileTree`: Files and directories.
* `FileTree.walk`: Where names lead.
* `FileTree.read`, `FileTree.write`: Reading and writing.
* `FileTree.host`: A tree as surroundings of a program.
-/

namespace SamlConformance

/-- Files and directories by the names that lead to them from the root. -/
structure FileTree where
  /-- The content of each file. -/
  files : List (List String × String)
  /-- Directories that may be empty. -/
  directories : List (List String)
  /-- The directory at which relative paths begin. -/
  here : List String
deriving Repr

/-- What is at the end of a path. -/
inductive Spot where
  /-- A directory. -/
  | directory (place : List String)
  /-- A file. -/
  | file (place : List String) (content : String)
  /-- Nothing, in a directory. -/
  | free (place : List String)
  /-- Nothing, where a directory is asked for. -/
  | noDirectory
deriving Repr, DecidableEq

namespace FileTree

/-- There is a directory at a place. -/
def isDirectory (t : FileTree) (place : List String) : Bool :=
  place.isEmpty || (t.directories ++ t.files.map fun f => f.1.dropLast).any place.isPrefixOf

/-- Where names lead from a place. -/
def walk (t : FileTree) : (place names : List String) → Except FileError Spot
  | place, [] => .ok (.directory place)
  | place, name :: names =>
    if name = "" ∨ name = "." then t.walk place names
    else if name = ".." then t.walk place.dropLast names
    else if 255 < name.utf8ByteSize then .error .nameTooLong
    else
      let next := place ++ [name]
      if t.isDirectory next then t.walk next names
      else
        match t.files.lookup next with
        | some content => if names.isEmpty then .ok (.file next content) else .error .notADirectory
        | none =>
          if names.isEmpty then .ok (.free next)
          else if names.all String.isEmpty then .ok .noDirectory
          else .error .notFound

/-- The least number of bytes that is too much for a path. -/
def pathLimit : Nat := 4096

/-- Where a path leads. -/
def spot (t : FileTree) (path : String) : Except FileError Spot :=
  if path.toList.contains '\x00' then .error .unusableName
  else if pathLimit ≤ path.utf8ByteSize then .error .nameTooLong
  else if path = "" then .error .notFound
  else t.walk (if path.startsWith "/" then [] else t.here) (Path.names path)

/-- The content of the file at a path. -/
def read (t : FileTree) (path : String) : Except FileError String :=
  match t.spot path with
  | .ok (.file _ content) => .ok content
  | .ok (.directory _) => .error .isADirectory
  | .ok _ => .error .notFound
  | .error e => .error e

/-- There is something at a path. -/
def holds (t : FileTree) (path : String) : Bool :=
  match t.spot path with
  | .ok (.file _ _) => true
  | .ok (.directory _) => true
  | _ => false

/-- The tree with another content for a place. -/
def put (t : FileTree) (place : List String) (content : String) : FileTree :=
  { t with files := (place, content) :: t.files.filter fun f => f.1 != place }

/-- Makes a content that of the file at a path. -/
def write (t : FileTree) (path content : String) : Except FileError FileTree :=
  match t.spot path with
  | .ok (.file place _) => .ok (t.put place content)
  | .ok (.free place) => .ok (t.put place content)
  | .ok _ => .error .isADirectory
  | .error e => .error e

/-- A tree as surroundings of a program, with the values of variables and a home directory. -/
def host (values : List (String × String)) (home : String) : Host (StateM FileTree) where
  read path := do return (← get).read path
  write path content := do
    match (← get).write path content with
    | .ok t => do set t; return .ok ()
    | .error e => return .error e
  holds path := do return (← get).holds path
  variableNamed? name := return values.lookup name
  home? := return some home

end FileTree

end SamlConformance
