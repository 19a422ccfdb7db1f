import SamlConformance.Json.Double
import SamlConformance.Json.Fault
import SamlConformance.Json.Value
import SamlConformance.Text.Decimal
import SamlConformance.Text.Hex

/-!
# Reading JSON

The strict grammar: no comments, no trailing commas, no byte order mark, nothing
after the value but blanks. Escapes of surrogates have to come in pairs. Lists and
objects nest up to a limit, and numbers are not too large for a double.

The readers take characters off the front of a list and tell where they fail.
Between two calls that take none at least one character goes, so twice the length
bounds the depth of calls.

## Main definitions

* `scalar`: Reads a value that is neither a list nor an object.
* `nextName`: Goes on in an object.
* `anyValue`: Reads a value.
* `parse`, `parse?`: The value a text holds.
-/

namespace SamlConformance

namespace Json

/-- Space, tab, line feed and carriage return. -/
def isBlank (c : Char) : Bool :=
  c == ' ' || c == '\t' || c == '\n' || c == '\r'

/-- The text from the next character that is not blank. -/
def skipBlanks (cs : List Char) : List Char :=
  cs.dropWhile isBlank

/-! ## Texts -/

/-- The number written by four hexadecimal digits. -/
def unit? (a b c d : Char) : Option Nat :=
  Text.hexNumber? [a, b, c, d]

/-- Four bytes that are no hexadecimal digits, or fewer than four. -/
def badUnit (cs : List Char) : Fault :=
  if Utf8.width cs < 4 then .before .textEnds [] else .within 4 .badEscape cs

/-- The number written by four hexadecimal digits, and what follows them. -/
def unit (cs : List Char) : Except Fault (Nat × List Char) :=
  match cs with
  | a :: b :: c :: d :: rest =>
    match unit? a b c d with
    | some n => .ok (n, rest)
    | none => .error (badUnit cs)
  | _ => .error (badUnit cs)

/-- The character a short escape stands for. -/
def shortEscape? (c : Char) : Option Char :=
  match c with
  | '"' => some '"'
  | '\\' => some '\\'
  | '/' => some '/'
  | 'b' => some '\x08'
  | 'f' => some '\x0c'
  | 'n' => some '\n'
  | 'r' => some '\r'
  | 't' => some '\t'
  | _ => none

/-- The unit is the first of a surrogate pair. -/
def isHigh (n : Nat) : Bool := 0xD800 ≤ n && n < 0xDC00

/-- The unit is the second of a surrogate pair. -/
def isLow (n : Nat) : Bool := 0xDC00 ≤ n && n < 0xE000

/-- The character of a surrogate pair whose first unit was read. -/
def lowUnit (high : Nat) (cs : List Char) : Except Fault (Char × List Char) :=
  match cs with
  | [] => .error (.before .textEnds [])
  | ['\\'] => .error (.before .textEnds [])
  | '\\' :: 'u' :: rest =>
    match unit rest with
    | .error f => .error f
    | .ok (low, rest) =>
      if isLow low then
        .ok (Char.ofNat (0x10000 + (high - 0xD800) * 0x400 + (low - 0xDC00)), rest)
      else .error (.before .loneSurrogate rest)
  | '\\' :: rest => .error (.within 1 .openSurrogate rest)
  | rest => .error (.within 1 .openSurrogate rest)

/-- The character an escape stands for, and what follows it. -/
def escaped (cs : List Char) : Except Fault (Char × List Char) :=
  match cs with
  | [] => .error (.before .textEnds [])
  | 'u' :: rest =>
    match unit rest with
    | .error f => .error f
    | .ok (n, rest) =>
      if isHigh n then lowUnit n rest
      else if isLow n then .error (.before .loneSurrogate rest)
      else .ok (Char.ofNat n, rest)
  | c :: rest =>
    match shortEscape? c with
    | some x => .ok (x, rest)
    | none => .error (.within 1 .badEscape cs)

theorem length_unit {cs rest : List Char} {n : Nat} (h : unit cs = .ok (n, rest)) :
    rest.length < cs.length := by
  unfold unit at h
  split at h
  · split at h
    · simp only [Except.ok.injEq, Prod.mk.injEq] at h
      obtain ⟨-, rfl⟩ := h
      simp only [List.length_cons]
      omega
    · simp at h
  · simp at h

theorem length_lowUnit {cs rest : List Char} {n : Nat} {x : Char}
    (h : lowUnit n cs = .ok (x, rest)) : rest.length < cs.length := by
  unfold lowUnit at h
  split at h
  case h_3 =>
    split at h
    · simp at h
    · rename_i hu
      have := length_unit hu
      split at h
      · simp only [Except.ok.injEq, Prod.mk.injEq] at h
        obtain ⟨-, rfl⟩ := h
        simp only [List.length_cons]
        omega
      · simp at h
  all_goals simp at h

theorem length_escaped {cs rest : List Char} {x : Char} (h : escaped cs = .ok (x, rest)) :
    rest.length < cs.length := by
  unfold escaped at h
  split at h
  · simp at h
  · split at h
    · simp at h
    · rename_i hu
      have := length_unit hu
      split at h
      · have := length_lowUnit h
        simp only [List.length_cons]
        omega
      · split at h
        · simp at h
        · simp only [Except.ok.injEq, Prod.mk.injEq] at h
          obtain ⟨-, rfl⟩ := h
          simp only [List.length_cons]
          omega
  · split at h
    · simp only [Except.ok.injEq, Prod.mk.injEq] at h
      obtain ⟨-, rfl⟩ := h
      simp
    · simp at h

/-- The characters of a text whose opening quote was read, and what follows it. -/
def textBody (cs : List Char) : Except Fault (List Char × List Char) :=
  match cs with
  | [] => .error (.before .textEnds [])
  | '"' :: rest => .ok ([], rest)
  | '\\' :: rest =>
    match _ : escaped rest with
    | .error f => .error f
    | .ok (x, rest) => (textBody rest).map fun r => (x :: r.1, r.2)
  | c :: rest =>
    if c.toNat < 0x20 then .error (.within 1 .control (c :: rest))
    else (textBody rest).map fun r => (c :: r.1, r.2)
termination_by cs.length
decreasing_by
  · have := length_escaped ‹_›
    simp only [List.length_cons]
    omega
  · simp

/-! ## Numbers -/

/-- The digits at the front, and what follows them. -/
def digitsOf (cs : List Char) : List Char × List Char :=
  (cs.takeWhile Text.isDigit, cs.dropWhile Text.isDigit)

/-- One or more digits, and what follows them. -/
def someDigits (cs : List Char) : Except Fault (List Char × List Char) :=
  match digitsOf cs with
  | ([], []) => .error (.before .valueEnds [])
  | ([], rest) => .error (.within 1 .badNumber rest)
  | r => .ok r

/-- The whole part of a number: a zero alone, or digits that begin otherwise. -/
def whole : List Char → Except Fault (List Char × List Char)
  | '0' :: rest =>
    if (rest.head?.map Text.isDigit).getD false then .error (.within 1 .badNumber rest)
    else .ok (['0'], rest)
  | cs => someDigits cs

/-- The digits of the fraction of a number, if it has one. -/
def fraction : List Char → Except Fault (List Char × List Char)
  | '.' :: rest => someDigits rest
  | cs => .ok ([], cs)

/-- The sign of an exponent, and what follows it. -/
def exponentSign : List Char → Bool × List Char
  | '-' :: rest => (true, rest)
  | '+' :: rest => (false, rest)
  | cs => (false, cs)

/-- The greatest exponent that is counted with. -/
def greatestExponent : Nat := 0x7FFFFFFF

/-- What follows the digit by which an exponent gets too large to be counted with. -/
def exponentOverrun? (n : Nat) : List Char → Option (List Char)
  | [] => none
  | d :: ds =>
    let n' := n * 10 + Text.digitValue d
    if !Text.isDigit d then none
    else if greatestExponent < n' then some ds
    else exponentOverrun? n' ds

/-- The exponent of a number, if it has one. One that is too large to be counted with
is a fault at once, unless it is negative or the number is zero. -/
def exponent (isZero : Bool) : List Char → Except Fault (Int × List Char)
  | [] => .ok (0, [])
  | c :: rest =>
    if c == 'e' || c == 'E' then
      let (negative, rest) := exponentSign rest
      match someDigits rest with
      | .error f => .error f
      | .ok (ds, after) =>
        let n := Text.decimalOnto 0 ds
        match exponentOverrun? 0 rest with
        | some unread =>
          if negative || isZero then .ok (-n, after) else .error (.before .tooLarge unread)
        | none => .ok (if negative then -n else n, after)
    else .ok (0, c :: rest)

/-- The text in front of what follows it. -/
def readOf (cs rest : List Char) : List Char :=
  cs.take (cs.length - rest.length)

/-- The double of a number in writing without sign, and what follows it. -/
def double (cs : List Char) : Except Fault (Double × List Char) := do
  let (w, rest) ← whole cs
  let (f, rest) ← fraction rest
  let (e, rest) ← exponent ((Scaled.ofDigits w f 0).significand == 0) rest
  match (Scaled.ofDigits w f e).double? with
  | none => .error (.before .tooLarge rest)
  | some d => return (d, rest)

/-- A number in writing after its sign, and what follows it. -/
def number (sign cs : List Char) : Except Fault (Value × List Char) :=
  (double cs).map fun r => (.number (String.ofList (sign ++ readOf cs r.2)), r.2)

/-! ## Values -/

/-- The rest of a word whose first letter was read. -/
def word (v : Value) : (letters cs : List Char) → Except Fault (Value × List Char)
  | [], cs => .ok (v, cs)
  | _ :: _, [] => .error (.before .valueEnds [])
  | c :: letters, d :: ds =>
    if c = d then word v letters ds else .error (.within 1 .noWord (d :: ds))

/-- A value that is neither a list nor an object, and what follows it. -/
def scalar : List Char → Except Fault (Value × List Char)
  | [] => .error (.before .valueEnds [])
  | '"' :: rest => (textBody rest).map fun r => (.string (String.ofList r.1), r.2)
  | 't' :: rest => word (.bool true) ['r', 'u', 'e'] rest
  | 'f' :: rest => word (.bool false) ['a', 'l', 's', 'e'] rest
  | 'n' :: rest => word .null ['u', 'l', 'l'] rest
  | '-' :: rest => number ['-'] rest
  | c :: rest =>
    if Text.isDigit c then number [] (c :: rest) else .error (.within 1 .noValue (c :: rest))

/-- Goes on in a list: a value comes next, or the list is closed. -/
def nextItem (first : Bool) (cs : List Char) : Except Fault (Bool × List Char) :=
  match skipBlanks cs with
  | [] => .error (.before .listEnds [])
  | ']' :: rest => .ok (false, rest)
  | c :: rest =>
    if first then .ok (true, c :: rest)
    else if c = ',' then
      match skipBlanks rest with
      | [] => .error (.before .valueEnds [])
      | ']' :: rest => .error (.within 1 .trailingComma (']' :: rest))
      | rest => .ok (true, rest)
    else .error (.within 1 .listBroken (c :: rest))

/-- The name of a member, and what follows it. -/
def memberName : List Char → Except Fault (Option String × List Char)
  | '"' :: rest => (textBody rest).map fun r => (some (String.ofList r.1), r.2)
  | rest => .error (.within 1 .noName rest)

/-- Goes on in an object: a member with a name comes next, or the object is closed. -/
def nextName (first : Bool) (cs : List Char) : Except Fault (Option String × List Char) :=
  match skipBlanks cs with
  | [] => .error (.before .objectEnds [])
  | '\x7d' :: rest => .ok (none, rest)
  | c :: rest =>
    if first then memberName (c :: rest)
    else if c = ',' then
      match skipBlanks rest with
      | [] => .error (.before .valueEnds [])
      | '\x7d' :: rest => .error (.within 1 .trailingComma ('\x7d' :: rest))
      | rest => memberName rest
    else .error (.within 1 .objectBroken (c :: rest))

/-- What follows the colon after a name. -/
def pastColon (cs : List Char) : Except Fault (List Char) :=
  match skipBlanks cs with
  | [] => .error (.before .objectEnds [])
  | ':' :: rest => .ok rest
  | rest => .error (.within 1 .noColon rest)

/-- How many lists and objects may be open at once. -/
def nestingLimit : Nat := 127

mutual

/-- A value, and what follows it. `depth` more lists and objects may be opened. -/
def value : (fuel depth : Nat) → List Char → Except Fault (Value × List Char)
  | 0, _, cs => .error (.before .nesting cs)
  | fuel + 1, depth, cs =>
    match skipBlanks cs with
    | '[' :: rest =>
      if depth = 0 then .error (.within 1 .nesting ('[' :: rest))
      else (items fuel (depth - 1) true rest).map fun r => (.array r.1, r.2)
    | '\x7b' :: rest =>
      if depth = 0 then .error (.within 1 .nesting ('\x7b' :: rest))
      else (members fuel (depth - 1) true rest).map fun r => (.object r.1, r.2)
    | rest => scalar rest

/-- The items of a list up to its closing bracket. -/
def items : (fuel depth : Nat) → (first : Bool) → List Char →
    Except Fault (List Value × List Char)
  | 0, _, _, cs => .error (.before .nesting cs)
  | fuel + 1, depth, first, cs =>
    match nextItem first cs with
    | .error f => .error f
    | .ok (false, rest) => .ok ([], rest)
    | .ok (true, rest) =>
      match value fuel depth rest with
      | .error f => .error f
      | .ok (v, rest) => (items fuel depth false rest).map fun r => (v :: r.1, r.2)

/-- The members of an object up to its closing brace. -/
def members : (fuel depth : Nat) → (first : Bool) → List Char →
    Except Fault (List (String × Value) × List Char)
  | 0, _, _, cs => .error (.before .nesting cs)
  | fuel + 1, depth, first, cs =>
    match nextName first cs with
    | .error f => .error f
    | .ok (none, rest) => .ok ([], rest)
    | .ok (some n, rest) =>
      match pastColon rest with
      | .error f => .error f
      | .ok rest =>
        match value fuel depth rest with
        | .error f => .error f
        | .ok (v, rest) => (members fuel depth false rest).map fun r => ((n, v) :: r.1, r.2)

end

/-- A value inside `opened` lists and objects, and what follows it. -/
def anyValue (opened : Nat) (cs : List Char) : Except Fault (Value × List Char) :=
  value (2 * cs.length + 2) (nestingLimit - opened) cs

/-- A text ends with blanks. -/
def ending (cs : List Char) : Except Fault Unit :=
  match skipBlanks cs with
  | [] => .ok ()
  | rest => .error (.within 1 .trailingText rest)

/-- The value a text holds. -/
def parse (text : String) : Except Fault Value := do
  let (v, rest) ← anyValue 0 text.toList
  ending rest
  return v

/-- The value a text holds, if it holds one. -/
def parse? (text : String) : Option Value :=
  (parse text).toOption

end Json

end SamlConformance
