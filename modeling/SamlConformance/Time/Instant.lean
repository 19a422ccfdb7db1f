import SamlConformance.Text.Cut
import SamlConformance.Time.Date

/-!
# Instants

Points in time as messages write them: a date, a time of day with an optional
fraction, and the offset of the clock from universal time. Fractions are cut to
nanoseconds. Second 60 of a minute is a leap second; it lies after every part of
second 59 and before the next minute.

## Main definitions

* `Instant`: A point in time, by the clock of universal time.
* `Instant.parse?`: Reads a point in time.
* `Instant.isBefore`: The order of time.
* `Instant.text`: How messages to people show it.
-/

namespace SamlConformance

/-- A point in time, by the clock of universal time. -/
structure Instant where
  /-- The day. -/
  date : Date
  /-- The second of the day; a leap second counts with the one before it. -/
  second : Nat
  /-- The nanosecond in that second, from a thousand million on in a leap second. -/
  nanosecond : Nat
deriving Repr, DecidableEq

namespace Instant

/-- The nanoseconds of a second. -/
def nanosPerSecond : Nat := 1000000000

/-- The seconds of a day. -/
def secondsPerDay : Nat := 86400

/-- What follows the mark between date and time. -/
def afterDate? : List Char → Option (List Char)
  | [] => none
  | c :: cs => if c = 'T' ∨ c = 't' ∨ c = ' ' then some cs else none

/-- The nanoseconds of a fraction, if there is one, and what follows. Digits
beyond the ninth do not count. -/
def fraction? : List Char → Option (Nat × List Char)
  | '.' :: cs =>
    let ds := cs.takeWhile Text.isDigit
    if ds.isEmpty then none
    else
      (Text.decimal? ((ds ++ List.replicate 9 '0').take 9)).map fun v =>
        (v, cs.dropWhile Text.isDigit)
  | cs => some (0, cs)

/-- The minutes by which a clock is ahead, written in hours and minutes. -/
def offsetMinutes? (cs : List Char) : Option (Nat × List Char) := do
  let (hours, cs) ← Text.leadingDecimal? 2 cs
  let cs ← Text.after? ':' cs
  let (minutes, cs) ← Text.leadingDecimal? 2 cs
  if hours < 24 ∧ minutes < 60 then some (hours * 60 + minutes, cs) else none

/-- The minutes by which a clock is ahead of universal time, and what follows. -/
def offset? : List Char → Option (Int × List Char)
  | [] => none
  | c :: cs =>
    if c = 'Z' ∨ c = 'z' then some (0, cs)
    else if c = '+' then (offsetMinutes? cs).map fun r => ((r.1 : Int), r.2)
    else if c = '-' ∨ c = '\u2212' then (offsetMinutes? cs).map fun r => (-(r.1 : Int), r.2)
    else none

/-- The instant at which a clock that is `ahead` minutes ahead shows a second of
a day. -/
def ofClock (date : Date) (second nanosecond : Nat) (ahead : Int) : Instant :=
  let s : Int := second - ahead * 60
  if s < 0 then ⟨date.previous, (s + secondsPerDay).toNat, nanosecond⟩
  else if (secondsPerDay : Int) ≤ s then ⟨date.next, (s - secondsPerDay).toNat, nanosecond⟩
  else ⟨date, s.toNat, nanosecond⟩

/-- The second and nanosecond of a day at a time of day that exists. -/
def timeOfDay? (hour minute second nanosecond : Nat) : Option (Nat × Nat) :=
  if 23 < hour ∨ 59 < minute ∨ 60 < second then none
  else if second = 60 then some (hour * 3600 + minute * 60 + 59, nanosPerSecond + nanosecond)
  else some (hour * 3600 + minute * 60 + second, nanosecond)

/-- The day at the start of a text, and what follows the mark behind it. -/
def date? (cs : List Char) : Option (Date × List Char) := do
  let (year, cs) ← Text.leadingDecimal? 4 cs
  let cs ← Text.after? '-' cs
  let (month, cs) ← Text.leadingDecimal? 2 cs
  let cs ← Text.after? '-' cs
  let (day, cs) ← Text.leadingDecimal? 2 cs
  let cs ← afterDate? cs
  let date : Date := ⟨year, month, day⟩
  if date.isReal then some (date, cs) else none

/-- The second and nanosecond of a day at the start of a text, and what follows. -/
def time? (cs : List Char) : Option ((Nat × Nat) × List Char) := do
  let (hour, cs) ← Text.leadingDecimal? 2 cs
  let cs ← Text.after? ':' cs
  let (minute, cs) ← Text.leadingDecimal? 2 cs
  let cs ← Text.after? ':' cs
  let (second, cs) ← Text.leadingDecimal? 2 cs
  let (nanosecond, cs) ← fraction? cs
  let time ← timeOfDay? hour minute second nanosecond
  return (time, cs)

/-- The instant a text writes. -/
def parse? (s : String) : Option Instant := do
  let (date, cs) ← date? s.toList
  let ((second, nanosecond), cs) ← time? cs
  let (ahead, cs) ← offset? cs
  if cs.isEmpty then some (ofClock date second nanosecond ahead) else none

/-- The first instant comes before the second. -/
def isBefore (a b : Instant) : Bool :=
  a.date.isBefore b.date ||
    a.date == b.date && (a.second < b.second ||
      a.second == b.second && a.nanosecond < b.nanosecond)

/-- A fraction in writing, in as few groups of three digits as show it. -/
def fractionText (nanosecond : Nat) : String :=
  if nanosecond = 0 then ""
  else if nanosecond % 1000000 = 0 then
    "." ++ String.ofList (Text.decimalPadded 3 (nanosecond / 1000000))
  else if nanosecond % 1000 = 0 then
    "." ++ String.ofList (Text.decimalPadded 6 (nanosecond / 1000))
  else "." ++ String.ofList (Text.decimalPadded 9 nanosecond)

/-- The instant in writing. -/
def text (i : Instant) : String :=
  let two := fun n => String.ofList (Text.decimalPadded 2 n)
  let shown := i.second % 60 + i.nanosecond / nanosPerSecond
  i.date.text ++ " " ++ two (i.second / 3600) ++ ":" ++ two (i.second / 60 % 60) ++ ":" ++
    two shown ++ fractionText (i.nanosecond % nanosPerSecond) ++ " UTC"

end Instant

end SamlConformance
