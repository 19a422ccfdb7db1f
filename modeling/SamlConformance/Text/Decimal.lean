/-!
# Decimal Numbers

Reading unsigned numbers in decimal notation, as they stand in dotted section
names, ports and time stamps.

## Main definitions

* `decimal?`: The number written by one or more decimal digits.
* `signedDecimal?`: The same, allowing one plus sign in front.
* `leadingDecimal?`: The number written by digits of a given count at the front.
* `decimalPadded`: A number with zeros in front up to a width.
-/

namespace SamlConformance

namespace Text

/-- One of the ten ASCII digits. -/
def isDigit (c : Char) : Bool :=
  '0' ≤ c && c ≤ '9'

/-- The value of an ASCII digit. -/
def digitValue (c : Char) : Nat :=
  c.toNat - '0'.toNat

/-- The number a run of digits writes, read from the left on top of `acc`. -/
def decimalOnto (acc : Nat) (ds : List Char) : Nat :=
  ds.foldl (fun n d => n * 10 + digitValue d) acc

/-- The number written by one or more digits and nothing else. -/
def decimal? (cs : List Char) : Option Nat :=
  if cs.isEmpty || !cs.all isDigit then none else some (decimalOnto 0 cs)

/-- A number that may carry a plus sign. -/
def signedDecimal? : List Char → Option Nat
  | '+' :: ds => decimal? ds
  | ds => decimal? ds

/-- The number written by the first `n` characters, and what follows them. -/
def leadingDecimal? (n : Nat) (cs : List Char) : Option (Nat × List Char) :=
  if (cs.take n).length = n then (decimal? (cs.take n)).map fun v => (v, cs.drop n) else none

/-- A number in decimal digits, with zeros in front up to `width`. -/
def decimalPadded (width n : Nat) : List Char :=
  let ds := Nat.toDigits 10 n
  List.replicate (width - ds.length) '0' ++ ds

end Text

end SamlConformance
