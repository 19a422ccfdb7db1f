/-!
# Files

The toolkit reads configurations, metadata and captures from files and writes its
report to one. Why a file cannot be read or written is told by a few causes.

What the toolkit needs of its surroundings is small: reading, writing, and the
variables of the environment. It is asked for through an interface, so that the
same program runs on a disk and on a tree of files that is held in memory.

## Main definitions

* `FileError`: Why a file cannot be read or written.
* `Host`: What a program asks of its surroundings.
-/

namespace SamlConformance

/-- Why a file cannot be read or written. -/
inductive FileError where
  /-- There is nothing at the path. -/
  | notFound
  /-- A part of the path is no directory. -/
  | notADirectory
  /-- There is a directory at the path. -/
  | isADirectory
  /-- A name in the path is too long. -/
  | nameTooLong
  /-- The path holds a null character. -/
  | unusableName
  /-- The content is not UTF-8. -/
  | notText
  /-- Another cause. -/
  | other (description : String)
deriving Repr, DecidableEq

/-- The wording of a cause. -/
def FileError.message : FileError → String
  | notFound => "No such file or directory (os error 2)"
  | notADirectory => "Not a directory (os error 20)"
  | isADirectory => "Is a directory (os error 21)"
  | nameTooLong => "File name too long (os error 36)"
  | unusableName => "file name contained an unexpected NUL byte"
  | notText => "stream did not contain valid UTF-8"
  | other d => d

/-- What a program asks of its surroundings. -/
structure Host (m : Type → Type) where
  /-- The content of the file at a path. -/
  read : String → m (Except FileError String)
  /-- Makes a content that of the file at a path. -/
  write : String → String → m (Except FileError Unit)
  /-- There is something at a path. -/
  holds : String → m Bool
  /-- The value of a variable of the environment. -/
  variableNamed? : String → m (Option String)
  /-- The home directory. -/
  home? : m (Option String)

end SamlConformance
