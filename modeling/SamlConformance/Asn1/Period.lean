import SamlConformance.Asn1.Der
import SamlConformance.Time.Date

/-!
# Periods of Validity

A certificate is good for a period between two times. Nothing is made of the period,
yet both times have to exist: the calendar has their days, and the clock their hours.

## Main definitions

* `Period.isShortTime`, `Period.isLongTime`: The two writings of a time.
* `Period.past?`: What follows a period.
-/

namespace SamlConformance

namespace Period

/-- Two digits, or zero if fewer than two characters are left. -/
def twoDigitsIfThere? (cs : List Char) : Option (Nat × List Char) :=
  if cs.length < 2 then some (0, cs) else Text.leadingDecimal? 2 cs

/-- A time that exists. -/
def isTime (date : Date) (hour minute second : Nat) : Bool :=
  date.isReal && hour < 24 && minute < 60 && second < 60

/-- An offset from universal time in hours and minutes, of 25 hours and 59 minutes at
most. -/
def isOffset : List Char → Bool
  | sign :: cs =>
    match Text.leadingDecimal? 2 cs with
    | some (hours, rest) =>
      match Text.leadingDecimal? 2 rest with
      | some (minutes, []) => (sign == '+' || sign == '-') && hours ≤ 25 && minutes < 60
      | _ => false
    | none => false
  | [] => false

/-- The century that two digits of a year mean. -/
def century (year : Nat) : Nat :=
  if year < 50 then 2000 else 1900

/-- A time with two digits for the year. Its seconds may be missing, and it has an
offset or is in universal time. -/
def isShortTime (cs : List Char) : Bool :=
  let read : Option Bool := do
    let (year, cs) ← Text.leadingDecimal? 2 cs
    let (month, cs) ← Text.leadingDecimal? 2 cs
    let (day, cs) ← Text.leadingDecimal? 2 cs
    let (hour, cs) ← Text.leadingDecimal? 2 cs
    let (minute, cs) ← Text.leadingDecimal? 2 cs
    let (second, cs) ← twoDigitsIfThere? cs
    return isTime ⟨(century year + year : Nat), month, day⟩ hour minute second &&
      (cs == ['Z'] || isOffset cs)
  read.getD false

/-- The end of a time in universal time, with a fraction of a second or without. -/
def isLongEnd : List Char → Bool
  | '.' :: cs =>
    let digits := cs.takeWhile Text.isDigit
    digits.length ≤ 3 && cs.drop digits.length == ['Z']
  | cs => cs == ['Z']

/-- A time with four digits for the year. Its minutes and seconds may be missing, and
it is in universal time. -/
def isLongTime (cs : List Char) : Bool :=
  let read : Option Bool := do
    let (year, cs) ← Text.leadingDecimal? 4 cs
    let (month, cs) ← Text.leadingDecimal? 2 cs
    let (day, cs) ← Text.leadingDecimal? 2 cs
    let (hour, cs) ← Text.leadingDecimal? 2 cs
    let (minute, cs) ← twoDigitsIfThere? cs
    let (second, cs) ← twoDigitsIfThere? cs
    return isTime ⟨(year : Nat), month, day⟩ hour minute second && isLongEnd cs
  read.getD false

/-- What follows a time. -/
def pastTime? (bytes : List UInt8) : Option (List UInt8) :=
  match Der.element? bytes with
  | none => none
  | some (e, rest) =>
    let text := e.content.map fun b => Char.ofNat b.toNat
    let isGood :=
      if e.header.number = Der.shortTime then isShortTime text
      else e.header.number == Der.longTime && isLongTime text
    if isGood then some rest else none

/-- What follows a period: a sequence that starts with two times. -/
def past? (bytes : List UInt8) : Option (List UInt8) := do
  let (content, rest) ← Der.content? Der.sequence bytes
  let _ ← pastTime? (← pastTime? content)
  return rest

end Period

end SamlConformance
