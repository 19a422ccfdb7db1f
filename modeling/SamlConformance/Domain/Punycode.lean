/-!
# Labels in ASCII Spelling

A label with other characters than ASCII has a spelling in ASCII: its ASCII
characters, a hyphen, and a sequence of digits that says where to insert which
other characters (Punycode, RFC 3492). Each number of the sequence moves a
cursor through pairs of a code point and a position, code point by code point.

Digits are read one at a time; `State` is all that is known between two of them.

## Main definitions

* `State`, `State.digit`: Reading the sequence.
* `decode?`: The label an ASCII spelling stands for.
-/

namespace SamlConformance

namespace Domain

namespace Punycode

/-- The number of digits. -/
def base : Nat := 36

/-- The digit from which on a number goes on, at a place `k` of the number. -/
def threshold (k bias : Nat) : Nat :=
  if k ≤ bias then 1 else if k ≥ bias + 26 then 26 else k - bias

/-- Divides while the value is large, and counts. -/
def reduce : (fuel delta count : Nat) → Nat × Nat
  | 0, delta, count => (delta, count)
  | fuel + 1, delta, count =>
    if delta > 455 then reduce fuel (delta / 35) (count + 1) else (delta, count)

/-- The bias after a number, which fits the size of the numbers to come. -/
def adapt (delta points : Nat) (first : Bool) : Nat :=
  let delta := if first then delta / 700 else delta / 2
  let (d, count) := reduce 32 (delta + delta / points) 0
  36 * count + 36 * d / (d + 38)

/-- The value of a digit in lower case. -/
def digit? (c : Char) : Option Nat :=
  if 'a' ≤ c ∧ c ≤ 'z' then some (c.toNat - 'a'.toNat)
  else if '0' ≤ c ∧ c ≤ '9' then some (c.toNat - '0'.toNat + 26)
  else none

/-- What is known between two digits. -/
structure State where
  /-- The label so far. -/
  label : List Char
  /-- The code point under the cursor. -/
  point : Nat := 128
  /-- The position under the cursor, with what the current number adds. -/
  position : Nat := 0
  /-- The position before the current number. -/
  before : Nat := 0
  /-- Fits the digits to the size of the numbers. -/
  bias : Nat := 72
  /-- The weight of the next digit. -/
  weight : Nat := 1
  /-- The place of the next digit in its number. -/
  place : Nat := 36

/-- Inserts the character a finished number points at. -/
def State.insert? (s : State) : Option State :=
  let points := s.label.length + 1
  let point := s.point + s.position / points
  let slot := s.position % points
  if point.isValidChar then
    some
      { label := s.label.take slot ++ Char.ofNat point :: s.label.drop slot
        point
        position := slot + 1
        before := slot + 1
        bias := adapt (s.position - s.before) points (s.before == 0) }
  else none

/-- The number is small enough to be counted with. -/
def isCountable (n : Nat) : Bool :=
  n < 0x100000000

/-- Reads one digit. Numbers and weights that take more than 32 bits are refused, as
the standard demands. -/
def State.digit (s : State) (c : Char) : Option State := do
  let d ← digit? c
  let t := threshold s.place s.bias
  let weight := s.weight * (base - t)
  let s := { s with position := s.position + d * s.weight }
  if !isCountable s.position then none
  else if d < t then s.insert?
  else if !isCountable weight then none
  else return { s with weight, place := s.place + base }

/-- The label a spelling without its beginning `xn--` stands for. The sequence
of digits must not break off inside a number, and has to insert something. A hyphen
stands in front of it only if it sets characters apart from it. -/
def decode? (cs : List Char) : Option (List Char) :=
  let digits := (cs.reverse.takeWhile (· ≠ '-')).reverse
  let before := cs.take (cs.length - digits.length)
  if digits.isEmpty || before = ['-'] then none
  else
    match digits.foldlM State.digit { label := before.dropLast } with
    | some s => if s.place = base then some s.label else none
    | none => none

end Punycode

end Domain

end SamlConformance
