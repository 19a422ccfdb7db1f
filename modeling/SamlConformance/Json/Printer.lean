import SamlConformance.Json.Value
import SamlConformance.Text.Hex

/-!
# Writing JSON

Two layouts: everything on one line, and one item a line with two blanks for
each level. Empty lists and objects stay closed in both.

## Main definitions

* `Value.compact`: On one line.
* `Value.pretty`: One item a line.
-/

namespace SamlConformance

namespace Json

/-- One character inside a quoted text. Quotes, backslashes and control
characters are escaped, in the short form where there is one. -/
def writeChar (c : Char) : List Char :=
  if c = '"' then ['\\', '"']
  else if c = '\\' then ['\\', '\\']
  else if c = '\x08' then ['\\', 'b']
  else if c = '\x0c' then ['\\', 'f']
  else if c = '\n' then ['\\', 'n']
  else if c = '\r' then ['\\', 'r']
  else if c = '\t' then ['\\', 't']
  else if c.toNat < 0x20 then
    '\\' :: 'u' :: (Text.hexPadded 4 c.toNat).map Char.toLower
  else [c]

/-- A text in quotes. -/
def quoted (s : String) : String :=
  String.ofList ('"' :: (s.toList.flatMap writeChar ++ ['"']))

mutual

/-- The value on one line. -/
def Value.compact : Value → String
  | .null => "null"
  | .bool b => if b then "true" else "false"
  | .number w => w
  | .string s => quoted s
  | .array items => "[" ++ Value.compactItems items ++ "]"
  | .object members => "\x7b" ++ Value.compactMembers members ++ "\x7d"

/-- Items set apart by commas. -/
def Value.compactItems : List Value → String
  | [] => ""
  | [v] => v.compact
  | v :: vs => v.compact ++ "," ++ Value.compactItems vs

/-- Members set apart by commas. -/
def Value.compactMembers : List (String × Value) → String
  | [] => ""
  | [(k, v)] => quoted k ++ ":" ++ v.compact
  | (k, v) :: ms => quoted k ++ ":" ++ v.compact ++ "," ++ Value.compactMembers ms

end

/-- The beginning of a line at a level. -/
def indentation (level : Nat) : String :=
  "".pushn ' ' (2 * level)

mutual

/-- The value with one item a line, itself at a level. -/
def Value.prettyAt (level : Nat) : Value → String
  | .null => "null"
  | .bool b => if b then "true" else "false"
  | .number w => w
  | .string s => quoted s
  | .array [] => "[]"
  | .array (v :: vs) =>
    "[\n" ++ Value.prettyItems (level + 1) (v :: vs) ++ "\n" ++ indentation level ++ "]"
  | .object [] => "\x7b\x7d"
  | .object (m :: ms) =>
    "\x7b\n" ++ Value.prettyMembers (level + 1) (m :: ms) ++ "\n" ++ indentation level ++ "\x7d"

/-- Items, each on a line of its own. -/
def Value.prettyItems (level : Nat) : List Value → String
  | [] => ""
  | [v] => indentation level ++ v.prettyAt level
  | v :: vs => indentation level ++ v.prettyAt level ++ ",\n" ++ Value.prettyItems level vs

/-- Members, each on a line of its own. -/
def Value.prettyMembers (level : Nat) : List (String × Value) → String
  | [] => ""
  | [(k, v)] => indentation level ++ quoted k ++ ": " ++ v.prettyAt level
  | (k, v) :: ms =>
    indentation level ++ quoted k ++ ": " ++ v.prettyAt level ++ ",\n" ++
      Value.prettyMembers level ms

end

/-- The value with one item a line. -/
def Value.pretty (v : Value) : String :=
  v.prettyAt 0

end Json

end SamlConformance
