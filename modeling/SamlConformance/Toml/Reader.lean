import SamlConformance.Toml.Quoted
import SamlConformance.Toml.Table

/-!
# Reading Tables

The text of a configuration: lines that open a table, or that put a value under a
key into the table opened last. Lists and tables as values nest up to a limit, and
so do the parts of a dotted key.

The reader takes characters off the front of a list. Between two calls that take
none at least one character goes, so the length bounds the depth of calls.

## Main definitions

* `Toml.parse?`: The table a text writes.
-/

namespace SamlConformance

namespace Toml

/-- How many lists and tables as values may be open at once. -/
def nestingLimit : Nat := 79

/-- Lines that end with line feeds alone, without a mark of byte order. -/
def normalized (cs : List Char) : List Char :=
  let rec go : List Char → List Char
    | '\r' :: '\n' :: cs => '\n' :: go cs
    | c :: cs => c :: go cs
    | [] => []
  match cs with
  | '\uFEFF' :: cs => go cs
  | cs => go cs

/-- The text from the next character that is neither blank nor comment nor line
feed. -/
def pastTrivia : Nat → List Char → List Char
  | 0, cs => cs
  | fuel + 1, cs =>
    match cs with
    | '#' :: rest => pastTrivia fuel (rest.dropWhile isPlain)
    | c :: rest => if isBlank c || c == '\n' then pastTrivia fuel rest else c :: rest
    | [] => []

/-- What follows the end of a line, before which blanks and a comment may stand. -/
def pastLine? (cs : List Char) : Option (List Char) :=
  let rest := match cs.dropWhile isBlank with
    | '#' :: rest => rest.dropWhile isPlain
    | rest => rest
  match rest with
  | [] => some []
  | '\n' :: rest => some rest
  | _ => none

/-- A character of a key without quotes. -/
def isKeyChar (c : Char) : Bool :=
  c.isAlphanum || c == '_' || c == '-'

/-- One part of a key, and what follows it. -/
def keyPart? (cs : List Char) : Option (String × List Char) :=
  match cs with
  | '"' :: _ => quotedLine? cs
  | '\x27' :: _ => quotedLine? cs
  | _ =>
    let word := cs.takeWhile isKeyChar
    if word.isEmpty then none else some (String.ofList word, cs.drop word.length)

/-- The parts of a key, and what follows them and the blanks after them. -/
def keyParts? : Nat → List Char → Option (List String × List Char)
  | 0, _ => none
  | fuel + 1, cs =>
    match keyPart? (cs.dropWhile isBlank) with
    | none => none
    | some (part, rest) =>
      match rest.dropWhile isBlank with
      | '.' :: rest => (keyParts? fuel rest).map fun r => (part :: r.1, r.2)
      | rest => some ([part], rest)

/-- A key, and what follows it. -/
def key? (cs : List Char) : Option (List String × List Char) :=
  (keyParts? (cs.length + 1) cs).filter fun r => r.1.length ≤ nestingLimit

/-- A truth value, a number or a time, and what follows it. -/
def word? (cs : List Char) : Option (Value × List Char) :=
  let word := cs.takeWhile isWordChar
  if word = "true".toList then some (.boolean true, cs.drop word.length)
  else if word = "false".toList then some (.boolean false, cs.drop word.length)
  else (scalar? cs).map fun r => (.scalar r.1, r.2)

mutual

/-- A value, and what follows it. `depth` more lists and tables may be opened. -/
def value? : (fuel depth : Nat) → List Char → Option (Value × List Char)
  | 0, _, _ => none
  | fuel + 1, depth, cs =>
    match cs with
    | '"' :: _ => (quoted? cs).map fun r => (.string r.1, r.2)
    | '\x27' :: _ => (quoted? cs).map fun r => (.string r.1, r.2)
    | '[' :: rest =>
      if depth = 0 then none
      else (items? fuel (depth - 1) rest).map fun r => (.array r.1, r.2)
    | '\x7b' :: rest =>
      if depth = 0 then none
      else
        match rest.dropWhile isBlank with
        | '\x7d' :: rest => some (.table .inline [], rest)
        | rest => (members? fuel (depth - 1) [] rest).map fun r => (.table .inline r.1, r.2)
    | cs => word? cs

/-- The items of a list up to its closing bracket. -/
def items? : (fuel depth : Nat) → List Char → Option (List Value × List Char)
  | 0, _, _ => none
  | fuel + 1, depth, cs =>
    match pastTrivia cs.length cs with
    | ']' :: rest => some ([], rest)
    | cs =>
      match value? fuel depth cs with
      | none => none
      | some (v, rest) =>
        match pastTrivia rest.length rest with
        | ',' :: rest => (items? fuel depth rest).map fun r => (v :: r.1, r.2)
        | ']' :: rest => some ([v], rest)
        | _ => none

/-- The members of a table as a value up to its closing brace, added to those that
were read. -/
def members? : (fuel depth : Nat) → Entries → List Char → Option (Entries × List Char)
  | 0, _, _, _ => none
  | fuel + 1, depth, es, cs =>
    match key? cs with
    | some (key, '=' :: rest) =>
      match value? fuel depth (rest.dropWhile isBlank) with
      | none => none
      | some (v, rest) =>
        match insert? key v es with
        | none => none
        | some es =>
          match rest.dropWhile isBlank with
          | ',' :: rest => members? fuel depth es rest
          | '\x7d' :: rest => some (es, rest)
          | _ => none
    | _ => none

end

/-- A header, the table it opens, and what follows its line. -/
def header? (root : Entries) : List Char → Option (List String × Entries × List Char)
  | '[' :: '[' :: cs =>
    match key? cs with
    | some (path, ']' :: ']' :: rest) => do
      return (path, ← openItem? path root, ← pastLine? rest)
    | _ => none
  | '[' :: cs =>
    match key? cs with
    | some (path, ']' :: rest) => do
      return (path, ← openTable? path root, ← pastLine? rest)
    | _ => none
  | _ => none

/-- A key with its value, put into the table opened last, and what follows its
line. -/
def entry? (header : List String) (root : Entries) (cs : List Char) :
    Option (Entries × List Char) :=
  match key? cs with
  | some (key, '=' :: rest) => do
    let cs := rest.dropWhile isBlank
    let (v, rest) ← value? (2 * cs.length + 2) nestingLimit cs
    return (← insertAt? header key v root, ← pastLine? rest)
  | _ => none

/-- The table that lines add to one, the last header being known. -/
def lines? : (fuel : Nat) → List String → Entries → List Char → Option Entries
  | 0, _, _, _ => none
  | fuel + 1, header, root, cs =>
    match cs.dropWhile isBlank with
    | [] => some root
    | '\n' :: rest => lines? fuel header root rest
    | '#' :: rest =>
      match pastLine? ('#' :: rest) with
      | none => none
      | some rest => lines? fuel header root rest
    | '[' :: rest =>
      match header? root ('[' :: rest) with
      | none => none
      | some (header, root, rest) => lines? fuel header root rest
    | cs =>
      match entry? header root cs with
      | none => none
      | some (root, rest) => lines? fuel header root rest

/-- The table a text writes. -/
def parse? (text : String) : Option Entries :=
  let cs := normalized text.toList
  lines? (cs.length + 1) [] [] cs

end Toml

end SamlConformance
