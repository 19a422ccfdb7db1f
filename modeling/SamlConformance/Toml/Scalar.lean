import SamlConformance.Text.Cut
import SamlConformance.Text.Hex
import SamlConformance.Time.Date

/-!
# Numbers and Times

The configuration has no use for numbers and times, but a file that holds a faulty
one is refused. Each of them is a word of letters, digits and a few marks, with one
exception: between a date and a time there may be a space.

## Main definitions

* `Toml.Scalar`: A number or a time.
* `Toml.isInteger`, `Toml.isFloat`, `Toml.isTime`: The shapes.
* `Toml.scalar?`: A word of one of these shapes at the front.
-/

namespace SamlConformance

namespace Toml

/-- A character of a number, a time or a bare key. -/
def isWordChar (c : Char) : Bool :=
  c.isAlphanum || c == '+' || c == '-' || c == '_' || c == '.' || c == ':'

/-- Digits, in which single low lines may stand between two. -/
def isGrouped (isDigit : Char → Bool) (cs : List Char) : Bool :=
  (cs.splitOn '_').all fun piece => !piece.isEmpty && piece.all isDigit

/-- The digits without the low lines. -/
def ungrouped (cs : List Char) : List Char :=
  cs.filter fun c => c != '_'

/-- Decimal digits without a zero in front, unless it is the only one. -/
def isDecimal (cs : List Char) : Bool :=
  isGrouped Text.isDigit cs && (cs.length = 1 || cs.head? != some '0')

/-- A number without its sign. -/
def unsigned : List Char → List Char
  | '+' :: cs => cs
  | '-' :: cs => cs
  | cs => cs

/-- The number with digits of a base, below a limit. -/
def isBelow (base limit : Nat) (isDigit : Char → Bool) (cs : List Char) : Bool :=
  isGrouped isDigit cs &&
    (ungrouped cs).foldl (fun n c => n * base + (Text.hexValue? c).getD 0) 0 < limit

/-- One more than the largest whole number of 64 bits. -/
def integerLimit : Nat := 0x8000000000000000

/-- A whole number of 64 bits. -/
def isInteger (cs : List Char) : Bool :=
  match cs with
  | '0' :: 'x' :: ds => isBelow 16 integerLimit (fun c => (Text.hexValue? c).isSome) ds
  | '0' :: 'o' :: ds => isBelow 8 integerLimit (fun c => '0' ≤ c && c ≤ '7') ds
  | '0' :: 'b' :: ds => isBelow 2 integerLimit (fun c => c == '0' || c == '1') ds
  | '-' :: ds => isDecimal ds && isBelow 10 (integerLimit + 1) Text.isDigit ds
  | cs => isDecimal (unsigned cs) && isBelow 10 integerLimit Text.isDigit (unsigned cs)

/-- The parts around the letter of the exponent. -/
def aroundExponent (cs : List Char) : List Char × Option (List Char) :=
  Text.cutFirst 'e' (cs.map Char.toLower)

/-- The number `digits` times the power of ten to `exponent` is too large for 64
bits of floating point. -/
def overflows (digits : Nat) (exponent : Int) : Bool :=
  let size := ((Nat.toDigits 10 digits).length : Int) + exponent
  let bound := Nat.pow 2 1024 - Nat.pow 2 970
  if digits = 0 ∨ size < 300 then false
  else if 320 < size then true
  else if 0 ≤ exponent then bound ≤ digits * Nat.pow 10 exponent.toNat
  else bound * Nat.pow 10 (-exponent).toNat ≤ digits

/-- The number a signed run of digits writes. -/
def signedValue (cs : List Char) : Int :=
  let n : Int := Text.decimalOnto 0 (ungrouped (unsigned cs))
  if cs.head? = some '-' then -n else n

/-- A number with a fraction or an exponent, or one that is not finite. One that
would be too large without being written as infinite is refused. -/
def isFloat (cs : List Char) : Bool :=
  let body := unsigned cs
  if body = ['i', 'n', 'f'] ∨ body = ['n', 'a', 'n'] then true
  else
    let (mantissa, exponent) := aroundExponent body
    let (whole, fraction) := Text.cutFirst '.' mantissa
    let digits := Text.decimalOnto 0 (ungrouped (whole ++ fraction.getD []))
    let places : Int := (ungrouped (fraction.getD [])).length
    (fraction.isSome || exponent.isSome) && isDecimal whole &&
      fraction.all (isGrouped Text.isDigit) &&
      exponent.all (fun e => isGrouped Text.isDigit (unsigned e)) &&
      (cs.head? = some '-' || !overflows digits (signedValue (exponent.getD []) - places))

/-- A date, and what follows it. -/
def pastDate? (cs : List Char) : Option (List Char) := do
  let (year, cs) ← Text.leadingDecimal? 4 cs
  let (month, cs) ← Text.leadingDecimal? 2 (← Text.after? '-' cs)
  let (day, cs) ← Text.leadingDecimal? 2 (← Text.after? '-' cs)
  let date : Date := ⟨year, month, day⟩
  if date.isReal then some cs else none

/-- What follows a point and digits, if there is a point. -/
def pastFraction? : List Char → Option (List Char)
  | '.' :: ds =>
    if (ds.takeWhile Text.isDigit).isEmpty then none else some (ds.dropWhile Text.isDigit)
  | cs => some cs

/-- A time of day, and what follows it. -/
def pastTimeOfDay? (cs : List Char) : Option (List Char) := do
  let (hour, cs) ← Text.leadingDecimal? 2 cs
  let (minute, cs) ← Text.leadingDecimal? 2 (← Text.after? ':' cs)
  let (second, cs) ← Text.leadingDecimal? 2 (← Text.after? ':' cs)
  if 23 < hour ∨ 59 < minute ∨ 60 < second then none else pastFraction? cs

/-- Nothing, or the offset of a clock. -/
def isOffset : List Char → Bool
  | [] => true
  | ['Z'] => true
  | ['z'] => true
  | c :: cs =>
    let read : Option Bool := do
      let (hour, cs) ← Text.leadingDecimal? 2 cs
      let (minute, cs) ← Text.leadingDecimal? 2 (← Text.after? ':' cs)
      return hour < 24 && minute < 60 && cs.isEmpty
    (c == '+' || c == '-') && read.getD false

/-- A time of day, and an offset after it or none. -/
def isClock (cs : List Char) : Bool :=
  (pastTimeOfDay? cs).any isOffset

/-- A date. -/
def isDate (cs : List Char) : Bool :=
  (pastDate? cs).any List.isEmpty

/-- A date, a time of day, or both. -/
def isTime (cs : List Char) : Bool :=
  match pastDate? cs with
  | some [] => true
  | some (c :: rest) => (c == 'T' || c == 't') && isClock rest
  | none => (pastTimeOfDay? cs).any List.isEmpty

/-- The length of the word at the front. After a date, a space and a time of day
belong to it. -/
def wordLength (cs : List Char) : Nat :=
  let word := cs.takeWhile isWordChar
  match isDate word, cs.drop word.length with
  | true, ' ' :: rest =>
    let clock := rest.takeWhile isWordChar
    if isClock clock then word.length + 1 + clock.length else word.length
  | _, _ => word.length

/-- What a word of letters, digits and marks can be. -/
inductive Scalar where
  /-- A number. -/
  | number
  /-- A date, a time of day, or both. -/
  | time
deriving Repr, DecidableEq

/-- A number or a time at the front, and what follows it. -/
def scalar? (cs : List Char) : Option (Scalar × List Char) :=
  let word := cs.takeWhile isWordChar
  if isInteger word || isFloat word then some (.number, cs.drop word.length)
  else if isTime word then some (.time, cs.drop (wordLength cs))
  else none

end Toml

end SamlConformance
