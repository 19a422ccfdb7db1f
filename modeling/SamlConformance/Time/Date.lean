import SamlConformance.Text.Decimal

/-!
# Dates

Days of the Gregorian calendar, extended to all years. Only the neighbours of a
day are needed: an offset from universal time moves an instant by less than one
day.

## Main definitions

* `Date`: Year, month and day.
* `Date.isReal`: The calendar has such a day.
* `Date.next`, `Date.previous`: The neighbours.
* `Date.isBefore`: The order of days.
-/

namespace SamlConformance

/-- A day by its numbers in the calendar. -/
structure Date where
  /-- The year; the one before year 1 is year 0. -/
  year : Int
  /-- The month, counted from 1. -/
  month : Nat
  /-- The day of the month, counted from 1. -/
  day : Nat
deriving Repr, DecidableEq

namespace Date

/-- A year with a leap day. -/
def isLeapYear (year : Int) : Bool :=
  year % 4 == 0 && (year % 100 != 0 || year % 400 == 0)

/-- How many days a month has. -/
def monthLength (year : Int) (month : Nat) : Nat :=
  if month = 2 then if isLeapYear year then 29 else 28
  else if month = 4 ∨ month = 6 ∨ month = 9 ∨ month = 11 then 30
  else 31

/-- The calendar has such a day. -/
def isReal (d : Date) : Bool :=
  1 ≤ d.month && d.month ≤ 12 && 1 ≤ d.day && d.day ≤ monthLength d.year d.month

/-- The day after. -/
def next (d : Date) : Date :=
  if d.day < monthLength d.year d.month then { d with day := d.day + 1 }
  else if d.month < 12 then ⟨d.year, d.month + 1, 1⟩
  else ⟨d.year + 1, 1, 1⟩

/-- The day before. -/
def previous (d : Date) : Date :=
  if 1 < d.day then { d with day := d.day - 1 }
  else if 1 < d.month then ⟨d.year, d.month - 1, monthLength d.year (d.month - 1)⟩
  else ⟨d.year - 1, 12, 31⟩

/-- The first day comes before the second. -/
def isBefore (a b : Date) : Bool :=
  a.year < b.year ||
    a.year == b.year && (a.month < b.month || a.month == b.month && a.day < b.day)

/-- A year in writing: four digits, with a sign if that does not suffice. -/
def yearText (year : Int) : String :=
  let digits := String.ofList (Text.decimalPadded 4 year.natAbs)
  if year < 0 then "-" ++ digits
  else if 9999 < year then "+" ++ digits
  else digits

/-- The day in writing. -/
def text (d : Date) : String :=
  yearText d.year ++ "-" ++ String.ofList (Text.decimalPadded 2 d.month) ++ "-" ++
    String.ofList (Text.decimalPadded 2 d.day)

end Date

end SamlConformance
