import SamlConformance.Json.Reader
import SamlConformance.Unicode.Visible

/-!
# Values of a Wanted Kind

Where the kind of a value is known beforehand, it is read as that kind, and another
one is a fault at its place. A message says what was found: words and numbers as
they are, texts in quotes, lists and objects by their kind alone.

Values that are read already can be taken as a kind too; then only the problem is
known and not its place.

## Main definitions

* `Value.wording`: What a message calls a value.
* `text`, `optionalText`, `flag`, `choice`: Reading values of a kind.
* `Value.toText`, `Value.toOptionalText`, `Value.toWord`: Taking values as a kind.
-/

namespace SamlConformance

namespace Json

namespace Value

/-- An integer of 64 bits, with or without sign; none for other values. -/
def integer? : Value → Option Int
  | .number w =>
    match w.toList with
    | '-' :: ds =>
      ((Text.decimal? ds).filter fun n => 0 < n && n ≤ 0x8000000000000000).map fun n => -n
    | ds => ((Text.decimal? ds).filter (· ≤ Scaled.greatestSignificand)).map fun n => n
  | _ => none

/-- A number as a double is shown. -/
def doubleText (w : List Char) : String :=
  let (sign, cs) := match w with
    | '-' :: cs => ("-", cs)
    | cs => ("", cs)
  match double cs with
  | .ok (d, _) => sign ++ d.text
  | .error _ => ""

/-- What a message calls a value. -/
def wording (v : Value) : String :=
  match v with
  | .null => "null"
  | .bool b => s!"boolean `{b}`"
  | .number w =>
    match v.integer? with
    | some n => s!"integer `{n}`"
    | none => "floating point `" ++ doubleText w.toList ++ "`"
  | .string s => "string " ++ Unicode.quoted s
  | .array _ => "sequence"
  | .object _ => "map"

/-- The problem that a value is of another kind. -/
def otherKind (v : Value) (wanted : String) : Problem :=
  .otherKind v.wording wanted

/-- What messages call a text that is wanted. -/
def textWanted : String := "a string"

/-- A value as a text. -/
def toText : Value → Except Problem String
  | .string s => .ok s
  | v => .error (v.otherKind textWanted)

/-- A value as a text, or none for null. -/
def toOptionalText : Value → Except Problem (Option String)
  | .null => .ok none
  | v => v.toText.map some

/-- A value as a whole number of sixteen bits, written without point and exponent. -/
def toWord (v : Value) : Except Problem Nat :=
  match v.integer? with
  | some n =>
    if 0 ≤ n && n < 0x10000 then .ok n.toNat else .error (.outOfRange v.wording "u16")
  | none => .error (v.otherKind "u16")

end Value

/-! ## Reading -/

/-- The fault that a value of another kind comes next. -/
def unexpected (wanted : String) (cs : List Char) : Fault :=
  match cs with
  | '[' :: _ => .before ((Value.array []).otherKind wanted) cs
  | '\x7b' :: _ => .before ((Value.object []).otherKind wanted) cs
  | cs =>
    match scalar cs with
    | .error f => f
    | .ok (v, rest) => .before (v.otherKind wanted) rest

/-- A text, and what follows it. -/
def textAs (wanted : String) (cs : List Char) : Except Fault (String × List Char) :=
  match skipBlanks cs with
  | [] => .error (.before .valueEnds [])
  | '"' :: rest => (textBody rest).map fun r => (String.ofList r.1, r.2)
  | rest => .error (unexpected wanted rest)

/-- A text, and what follows it. -/
def text (cs : List Char) : Except Fault (String × List Char) :=
  textAs Value.textWanted cs

/-- A text, or none for null, and what follows it. -/
def optionalText (cs : List Char) : Except Fault (Option String × List Char) :=
  match skipBlanks cs with
  | 'n' :: rest => (word .null ['u', 'l', 'l'] rest).map fun r => (none, r.2)
  | rest => (text rest).map fun r => (some r.1, r.2)

/-- A truth value, and what follows it. -/
def flag (cs : List Char) : Except Fault (Bool × List Char) :=
  match skipBlanks cs with
  | [] => .error (.before .valueEnds [])
  | 't' :: rest => (word (.bool true) ['r', 'u', 'e'] rest).map fun r => (true, r.2)
  | 'f' :: rest => (word (.bool false) ['a', 'l', 's', 'e'] rest).map fun r => (false, r.2)
  | rest => .error (unexpected "a boolean" rest)

/-- The word null alone, and what follows it. -/
def nothing (cs : List Char) : Except Fault (List Char) :=
  match skipBlanks cs with
  | [] => .error (.before .valueEnds [])
  | 'n' :: rest => (word .null ['u', 'l', 'l'] rest).map Prod.snd
  | rest => .error (unexpected "unit" rest)

/-- A text that was read is one of those to choose from. -/
def chosen (choices : List String) (r : String × List Char) :
    Except Fault (String × List Char) :=
  if choices.contains r.1 then .ok r else .error (.before (.noChoice r.1 choices) r.2)

/-- One of some words, alone or as the name of the only member of an object, which
then is null. -/
def choice (choices : List String) (cs : List Char) : Except Fault (String × List Char) :=
  match skipBlanks cs with
  | [] => .error (.before .valueEnds [])
  | '\x7b' :: rest => do
    let (s, rest) ← chosen choices (← textAs "variant identifier" rest)
    let rest ← nothing (← pastColon rest)
    match skipBlanks rest with
    | [] => .error (.before .objectEnds [])
    | '\x7d' :: rest => return (s, rest)
    | rest => .error (.before .noValue rest)
  | '"' :: rest => do chosen choices (← text ('"' :: rest))
  | rest => .error (.within 1 .noValue rest)

/-- What is left of a text if an object is given up: its closing brace is read if that
comes next. -/
def givenUp (cs : List Char) : List Char :=
  match skipBlanks cs with
  | '\x7d' :: rest => rest
  | rest => rest

end Json

end SamlConformance
