import SamlConformance.Text.Utf8

/-!
# Faults in JSON

Why a text is no value, or not the value that is wanted, and where this shows. The
place is a line and a byte of it, counted from what was left of the text, so that
reading needs no counter.

## Main definitions

* `Problem`: What is wrong.
* `Fault`: A problem and what was left of the text.
* `Fault.message`: The wording, with the place.
-/

namespace SamlConformance

namespace Json

/-- What is wrong with a text. -/
inductive Problem where
  /-- It ends inside quotes. -/
  | textEnds
  /-- It ends where a value should be. -/
  | valueEnds
  /-- It ends inside a list. -/
  | listEnds
  /-- It ends inside an object. -/
  | objectEnds
  /-- Something else stands in the place of a value. -/
  | noValue
  /-- A word is not spelled as it should be. -/
  | noWord
  /-- A name is not followed by a colon. -/
  | noColon
  /-- A list goes on without a comma. -/
  | listBroken
  /-- An object goes on without a comma. -/
  | objectBroken
  /-- A name is no text in quotes. -/
  | noName
  /-- Nothing follows a comma. -/
  | trailingComma
  /-- Something follows the value. -/
  | trailingText
  /-- An escape is not known. -/
  | badEscape
  /-- A control character stands in quotes. -/
  | control
  /-- The second half of a surrogate pair stands alone, or the first has none. -/
  | loneSurrogate
  /-- No escape follows the first half of a surrogate pair. -/
  | openSurrogate
  /-- A number is not written as it should be. -/
  | badNumber
  /-- A number is too large. -/
  | tooLarge
  /-- Lists and objects are nested too deeply. -/
  | nesting
  /-- A value is of another kind. -/
  | otherKind (found wanted : String)
  /-- A value is of the right kind and not in range. -/
  | outOfRange (found wanted : String)
  /-- A word is none of those to choose from. -/
  | noChoice (found : String) (choices : List String)
  /-- A member is missing. -/
  | missing (name : String)
  /-- A member is repeated. -/
  | repeated (name : String)
deriving Repr, DecidableEq

/-- The wording of a problem. -/
def Problem.message : Problem → String
  | textEnds => "EOF while parsing a string"
  | valueEnds => "EOF while parsing a value"
  | listEnds => "EOF while parsing a list"
  | objectEnds => "EOF while parsing an object"
  | noValue => "expected value"
  | noWord => "expected ident"
  | noColon => "expected `:`"
  | listBroken => "expected `,` or `]`"
  | objectBroken => "expected `,` or `\x7d`"
  | noName => "key must be a string"
  | trailingComma => "trailing comma"
  | trailingText => "trailing characters"
  | badEscape => "invalid escape"
  | control => "control character (\\u0000-\\u001F) found while parsing a string"
  | loneSurrogate => "lone leading surrogate in hex escape"
  | openSurrogate => "unexpected end of hex escape"
  | badNumber => "invalid number"
  | tooLarge => "number out of range"
  | nesting => "recursion limit exceeded"
  | otherKind found wanted => "invalid type: " ++ found ++ ", expected " ++ wanted
  | outOfRange found wanted => "invalid value: " ++ found ++ ", expected " ++ wanted
  | noChoice found choices =>
    "unknown variant `" ++ found ++ "`, expected " ++
      String.intercalate " or " (choices.map fun c => "`" ++ c ++ "`")
  | missing name => "missing field `" ++ name ++ "`"
  | repeated name => "duplicate field `" ++ name ++ "`"

/-- A problem and where it shows. -/
structure Fault where
  /-- The problem. -/
  problem : Problem
  /-- How many bytes of the text were left. -/
  left : Nat
deriving Repr, DecidableEq

namespace Fault

/-- The problem shows before the rest of a text. -/
def before (problem : Problem) (rest : List Char) : Fault :=
  ⟨problem, Utf8.width rest⟩

/-- The problem shows after the first bytes of the rest of a text, or at its end. -/
def within (bytes : Nat) (problem : Problem) (rest : List Char) : Fault :=
  ⟨problem, Utf8.width rest - bytes⟩

/-- The line of a fault in a text, and how many bytes of that were read. -/
def place (f : Fault) (text : String) : Nat × Nat :=
  let bytes := Utf8.encode text
  let read := bytes.take (bytes.length - f.left)
  (read.count 10 + 1, (read.reverse.takeWhile (· != 10)).length)

/-- The wording of a fault in a text. -/
def message (f : Fault) (text : String) : String :=
  let (line, column) := f.place text
  s!"{f.problem.message} at line {line} column {column}"

end Fault

end Json

end SamlConformance
