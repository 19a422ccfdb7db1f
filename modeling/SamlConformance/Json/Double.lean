import SamlConformance.Text.Decimal

/-!
# Numbers in Double Precision

A number in JSON that is no integer is taken to double precision when it is read,
and one that is too large for that is refused. Its digits are gathered in 64 bits
first: what no longer fits is dropped, and a power of ten makes up for it. Then
digits and power are rounded to 53 bits each, and so is their product or quotient.
All of this is done in whole numbers, so that every rounding can be seen.

A double is shown in as few digits as tell it apart from its neighbours.

## Main definitions

* `Scaled`: Digits and a power of ten.
* `Double`: A whole number of 53 bits and a power of two.
* `Double.ofRatio`: The double next to a fraction.
* `Scaled.double?`: The double of a number, unless it is too large.
* `Double.text`: How a double is shown.
-/

namespace SamlConformance

namespace Json

/-- A number as a whole one times a power of ten. -/
structure Scaled where
  /-- The whole number. -/
  significand : Nat
  /-- The power. -/
  exponent : Int
deriving Repr, DecidableEq

namespace Scaled

/-- The greatest number in 64 bits. -/
def greatestSignificand : Nat := 0xFFFFFFFFFFFFFFFF

/-- Appends digits as long as the number fits, and counts those that are left. -/
def gather (n : Nat) : List Char → Nat × Nat
  | [] => (n, 0)
  | d :: ds =>
    let n' := n * 10 + Text.digitValue d
    if n' ≤ greatestSignificand then gather n' ds else (n, ds.length + 1)

/-- The number with digits before and after the point, and an exponent. A digit
before the point that is left over is a power of ten more, and one after the point
that is gathered is a power less. -/
def ofDigits (whole fraction : List Char) (exponent : Int) : Scaled :=
  let (n, dropped) := gather 0 whole
  let (n, left) := gather n fraction
  ⟨n, exponent + dropped - (fraction.length - left : Nat)⟩

end Scaled

/-- A number that is not negative in double precision: a whole number of 53 bits
times a power of two. -/
structure Double where
  /-- The whole number. -/
  mantissa : Nat
  /-- The power. -/
  power : Int
deriving Repr, DecidableEq

namespace Double

/-- The least power of two. -/
def leastPower : Int := -1074

/-- The least number of 53 bits. -/
def leastNormal : Nat := 1 <<< 52

/-- A fraction rounded to a whole number; halves go to the even side. -/
def rounded (num den : Nat) : Nat :=
  let down := num / den
  let rest := 2 * (num % den)
  if den < rest || (den = rest && down % 2 == 1) then down + 1 else down

/-- A fraction rounded to a multiple of a power of two. -/
def multiple (num den : Nat) (power : Int) : Nat :=
  rounded (num <<< (-power).toNat) (den <<< power.toNat)

/-- The double next to a fraction. -/
def ofRatio (num den : Nat) : Double :=
  if num = 0 then ⟨0, leastPower⟩
  else
    let guess : Int := (num.log2 : Int) - den.log2 - 52
    let tooFew := num <<< (-guess).toNat < (den <<< guess.toNat) * leastNormal
    let power := max leastPower (if tooFew then guess - 1 else guess)
    let mantissa := multiple num den power
    if mantissa = 2 * leastNormal then ⟨leastNormal, power + 1⟩ else ⟨mantissa, power⟩

/-- The numerator of a double as a fraction. -/
def num (d : Double) : Nat := d.mantissa <<< d.power.toNat

/-- The denominator. -/
def den (d : Double) : Nat := 1 <<< (-d.power).toNat

/-- The double next to a product. -/
def mul (a b : Double) : Double := ofRatio (a.num * b.num) (a.den * b.den)

/-- The double next to a quotient. -/
def div (a b : Double) : Double := ofRatio (a.num * b.den) (a.den * b.num)

/-- The double is not too large; the powers of two end at 1024. -/
def isFinite (d : Double) : Bool := d.num < d.den <<< 1024

/-- The double next to a power of ten. -/
def tenTo (n : Nat) : Double := ofRatio (Nat.pow 10 n) 1

/-- The greatest power of ten that is a double. -/
def greatestTen : Nat := 308

/-- A double divided by a power of ten, in two steps if one power is not enough. -/
def shrunk (d : Double) (n : Nat) : Double :=
  if n ≤ greatestTen then d.div (tenTo n)
  else if n ≤ 2 * greatestTen then (d.div (tenTo greatestTen)).div (tenTo (n - greatestTen))
  else ⟨0, leastPower⟩

end Double

/-- The double of a number, unless it is too large. -/
def Scaled.double? (s : Scaled) : Option Double :=
  let digits := Double.ofRatio s.significand 1
  if s.significand = 0 then some digits
  else if s.exponent < 0 then some (digits.shrunk (-s.exponent).toNat)
  else if Double.greatestTen < s.exponent.toNat then none
  else
    let product := digits.mul (.tenTo s.exponent.toNat)
    if product.isFinite then some product else none

/-! ## Showing a double -/

namespace Double

/-- The multiple of a power of ten that is nearest to a double among those that no
other double is nearer to; none if there is no such multiple. The bounds lie half
way to the neighbours, and belong to the double if its mantissa is even. Everything
is counted in quarters of the last bit. -/
def decimal? (d : Double) (power : Int) : Option Nat :=
  let low := if d.mantissa = leastNormal && leastPower < d.power then 4 * d.mantissa - 1
    else 4 * d.mantissa - 2
  let scale (n : Nat) : Nat := (n <<< (d.power - 2).toNat) * Nat.pow 10 (-power).toNat
  let unit := (1 <<< (2 - d.power).toNat) * Nat.pow 10 power.toNat
  let value := scale (4 * d.mantissa)
  let fits (n : Nat) : Bool :=
    let (l, x, h) := (scale low, n * unit, scale (4 * d.mantissa + 2))
    if d.mantissa % 2 == 0 then l ≤ x && x ≤ h else l < x && x < h
  let below := value / unit
  let nearest := rounded value unit
  [nearest, below, below + 1].find? fits

/-- The fewest digits that tell a double apart, and the power of ten they count. -/
def shortest (d : Double) : Nat × Int :=
  ((List.range 640).findSome? fun (i : Nat) =>
    let power : Int := 310 - (i : Int)
    (d.decimal? power).map fun n => (n, power)).getD (0, 0)

/-- An exponent with its sign. -/
def exponentText (n : Int) : List Char :=
  (if n < 0 then ['e', '-'] else ['e', '+']) ++ Nat.toDigits 10 n.natAbs

/-- How a double is shown: with a point where it is neither large nor small, and
else with an exponent after the first digit. -/
def text (d : Double) : String :=
  let (n, power) := d.shortest
  let ds := Nat.toDigits 10 n
  let place : Int := ds.length + power
  String.ofList <|
    if n = 0 then ['0', '.', '0']
    else if 0 ≤ power && place ≤ 16 then ds ++ List.replicate power.toNat '0' ++ ['.', '0']
    else if 0 < place && place ≤ 16 then ds.take place.toNat ++ '.' :: ds.drop place.toNat
    else if -5 < place && place ≤ 0 then
      ['0', '.'] ++ List.replicate (-place).toNat '0' ++ ds
    else if ds.length = 1 then ds ++ exponentText (place - 1)
    else ds.take 1 ++ '.' :: ds.drop 1 ++ exponentText (place - 1)

end Double

end Json

end SamlConformance
