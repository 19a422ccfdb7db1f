import SamlConformance.Time.Instant
import Mathlib.Data.Prod.Lex

/-!
# The Line of Time

Messages write a point in time by a calendar and by a clock that may be ahead of universal
time. Reading it means to carry over from minutes into hours and from hours into the day
before or after, which can lie in another month or year; comparing it means to go through
years, months, days, seconds and fractions in this order. Neither shows that the result is
the order of time.

Here all days are numbered without gaps, so that the day after has the next number also where
a month or a year begins (`Date.number_next`). A text then denotes a moment by plain
arithmetic: the number of its day, the second of its day, less what the clock is ahead by.
Reading keeps the moment, and comparing compares moments. The offset is less than a day, which
is why the neighbours of a day suffice.

A leap second has no number of its own. It is the second before it with nanoseconds beyond all
others, so that moments are compared by the second first and by the nanosecond after.

## Main definitions

* `Date.number`: The number of a day.
* `Clock`, `Clock.parse?`: What the text of a point in time says.
* `Clock.moment`, `Instant.moment`: Where it lies on the line of time.

## Theorems

* `Date.number_next`, `Date.number_previous`: Neighbours have neighbouring numbers.
* `Date.isBefore_iff_number_lt`: The order of days is that of their numbers.
* `Instant.parse?_eq_map`: A text is read as what its clock shows.
* `Clock.instant_of_valid`: The moment is kept.
* `Clock.isBefore_instant_iff`: The order of points in time is that of their moments.
-/

namespace SamlConformance

namespace Date

/-- The number of days before the first day of a year, from the first day of year 0 on. -/
def daysBefore (year : Int) : Int :=
  365 * year + (year + 3) / 4 - (year + 99) / 100 + (year + 399) / 400

/-- The number of days in the first months of a year. -/
def daysIn (year : Int) : Nat → Nat
  | 0 => 0
  | n + 1 => daysIn year n + monthLength year (n + 1)

/-- The number of a day, where all days are numbered in their order. -/
def number (d : Date) : Int :=
  daysBefore d.year + daysIn d.year (d.month - 1) + d.day

theorem isReal_iff (d : Date) :
    d.isReal = true ↔
      1 ≤ d.month ∧ d.month ≤ 12 ∧ 1 ≤ d.day ∧ d.day ≤ monthLength d.year d.month := by
  simp only [isReal, Bool.and_eq_true, decide_eq_true_eq, and_assoc]

theorem isBefore_iff (a b : Date) :
    a.isBefore b = true ↔ a.year < b.year ∨ a.year = b.year ∧
      (a.month < b.month ∨ a.month = b.month ∧ a.day < b.day) := by
  simp only [isBefore, Bool.or_eq_true, Bool.and_eq_true, decide_eq_true_eq, beq_iff_eq]

theorem daysIn_year (year : Int) : daysIn year 12 = if isLeapYear year then 366 else 365 := by
  cases h : isLeapYear year <;> simp [daysIn, monthLength, h]

/-- A year ends where the next one begins. -/
theorem daysBefore_succ (year : Int) :
    daysBefore (year + 1) = daysBefore year + daysIn year 12 := by
  rw [daysIn_year]
  have hleap : isLeapYear year = true ↔ year % 4 = 0 ∧ (year % 100 ≠ 0 ∨ year % 400 = 0) := by
    simp only [isLeapYear, Bool.and_eq_true, Bool.or_eq_true, beq_iff_eq, bne_iff_ne]
  unfold daysBefore
  by_cases h : isLeapYear year = true
  · rw [if_pos h]
    have := hleap.mp h
    omega
  · rw [if_neg h]
    have := mt hleap.mpr h
    omega

theorem daysBefore_mono {a b : Int} (h : a ≤ b) : daysBefore a ≤ daysBefore b := by
  unfold daysBefore
  omega

theorem daysIn_mono (year : Int) {m n : Nat} (h : m ≤ n) : daysIn year m ≤ daysIn year n := by
  induction n, h using Nat.le_induction with
  | base => exact le_rfl
  | succ n _ ih => exact ih.trans (Nat.le_add_right _ _)

theorem daysIn_pred {month : Nat} (year : Int) (h : 1 ≤ month) :
    daysIn year month = daysIn year (month - 1) + monthLength year month := by
  obtain ⟨n, rfl⟩ := Nat.exists_eq_add_of_le' h
  rfl

/-- A day lies in its month, and hence in its year. -/
theorem number_le {d : Date} (hd : d.isReal = true) :
    d.number ≤ daysBefore d.year + daysIn d.year d.month := by
  obtain ⟨hmonth, -, -, hday⟩ := d.isReal_iff.mp hd
  rw [number, daysIn_pred d.year hmonth]
  omega

theorem lt_number {d : Date} (hd : d.isReal = true) :
    daysBefore d.year + daysIn d.year (d.month - 1) < d.number := by
  obtain ⟨-, -, hday, -⟩ := d.isReal_iff.mp hd
  rw [number]
  omega

theorem number_lt_of_isBefore {a b : Date} (ha : a.isReal = true) (hb : b.isReal = true)
    (h : a.isBefore b = true) : a.number < b.number := by
  have hreal := a.isReal_iff.mp ha
  have hend := number_le ha
  have hstart := lt_number hb
  rcases (isBefore_iff a b).mp h with hyear | ⟨hyear, hmonth | ⟨hmonth, hday⟩⟩
  · have hlast := daysIn_mono a.year hreal.2.1
    have hnext := daysBefore_succ a.year
    have hlater := daysBefore_mono (Int.add_one_le_of_lt hyear)
    omega
  · have hlater := daysIn_mono b.year (Nat.le_sub_one_of_lt hmonth)
    rw [hyear] at hend
    omega
  · rw [number, number, hyear, hmonth]
    omega

/-- Of two days that differ, one comes first. -/
theorem isBefore_trichotomy (a b : Date) :
    a.isBefore b = true ∨ a = b ∨ b.isBefore a = true := by
  rw [isBefore_iff, isBefore_iff, Date.mk.injEq]
  omega

/-- The order of days is that of their numbers. -/
theorem isBefore_iff_number_lt {a b : Date} (ha : a.isReal = true) (hb : b.isReal = true) :
    a.isBefore b = true ↔ a.number < b.number := by
  refine ⟨number_lt_of_isBefore ha hb, fun hlt => ?_⟩
  rcases isBefore_trichotomy a b with h | rfl | h
  · exact h
  · exact absurd hlt (lt_irrefl _)
  · exact absurd (number_lt_of_isBefore hb ha h) (by omega)

/-- No two days have the same number. -/
theorem eq_iff_number_eq {a b : Date} (ha : a.isReal = true) (hb : b.isReal = true) :
    a = b ↔ a.number = b.number := by
  refine ⟨congrArg number, fun heq => ?_⟩
  rcases isBefore_trichotomy a b with h | h | h
  · exact absurd (number_lt_of_isBefore ha hb h) (by omega)
  · exact h
  · exact absurd (number_lt_of_isBefore hb ha h) (by omega)

theorem monthLength_pos (year : Int) (month : Nat) : 28 ≤ monthLength year month := by
  unfold monthLength
  split_ifs <;> omega

theorem isReal_next {d : Date} (hd : d.isReal = true) : d.next.isReal = true := by
  obtain ⟨hmonth, hlast, hday, -⟩ := d.isReal_iff.mp hd
  rw [isReal_iff, next]
  split_ifs with hsame hyear
  · exact ⟨hmonth, hlast, by simp only; omega, hsame⟩
  · have := monthLength_pos d.year (d.month + 1)
    simp only
    omega
  · have := monthLength_pos (d.year + 1) 1
    simp only
    omega

/-- The day after has the next number, also where a month or a year begins. -/
theorem number_next {d : Date} (hd : d.isReal = true) : d.next.number = d.number + 1 := by
  obtain ⟨hmonth, hlast, hday, hlength⟩ := d.isReal_iff.mp hd
  have hpred := daysIn_pred d.year hmonth
  rw [next]
  split_ifs with hsame hyear
  · simp only [number]
    omega
  · simp only [number, Nat.add_sub_cancel]
    omega
  · have hdecember : d.month = 12 := by omega
    have hnext := daysBefore_succ d.year
    have hnone : daysIn (d.year + 1) 0 = 0 := rfl
    rw [hdecember] at hpred hsame hlength
    simp only [number, Nat.sub_self, hnone, hnext, hdecember]
    omega

theorem isReal_previous {d : Date} (hd : d.isReal = true) : d.previous.isReal = true := by
  obtain ⟨hmonth, hlast, hday, hlength⟩ := d.isReal_iff.mp hd
  rw [isReal_iff, previous]
  split_ifs with hsame hyear
  · simp only
    omega
  · have := monthLength_pos d.year (d.month - 1)
    simp only
    omega
  · have : monthLength (d.year - 1) 12 = 31 := rfl
    simp only
    omega

theorem number_previous {d : Date} (hd : d.isReal = true) : d.previous.number = d.number - 1 := by
  obtain ⟨hmonth, hlast, hday, hlength⟩ := d.isReal_iff.mp hd
  rw [previous]
  split_ifs with hsame hyear
  · simp only [number]
    omega
  · have hpred := daysIn_pred d.year (Nat.le_sub_one_of_lt hyear)
    simp only [number]
    omega
  · have hyear := daysBefore_succ (d.year - 1)
    have hpred := daysIn_pred (d.year - 1) (by omega : 1 ≤ 12)
    have hnone : daysIn d.year 0 = 0 := rfl
    have hjanuary : d.month = 1 := by omega
    have hlong : monthLength (d.year - 1) 12 = 31 := rfl
    rw [Int.sub_add_cancel] at hyear
    simp only [number, hjanuary, Nat.sub_self, hnone]
    omega

end Date

/-- What the text of a point in time says: the day and the second that a clock shows, and by how
many minutes this clock is ahead of universal time. -/
structure Clock where
  /-- The day. -/
  date : Date
  /-- The second of the day; a leap second counts with the one before it. -/
  second : Nat
  /-- The nanosecond in that second, from a thousand million on in a leap second. -/
  nanosecond : Nat
  /-- The minutes by which the clock is ahead. -/
  ahead : Int

namespace Clock

/-- Reads the clock in a text. -/
def parse? (s : String) : Option Clock := do
  let (date, cs) ← Instant.date? s.toList
  let ((second, nanosecond), cs) ← Instant.time? cs
  let (ahead, cs) ← Instant.offset? cs
  if cs.isEmpty then some ⟨date, second, nanosecond, ahead⟩ else none

/-- The point in time at which the clock shows this. -/
def instant (c : Clock) : Instant :=
  Instant.ofClock c.date c.second c.nanosecond c.ahead

/-- The second of universal time, counted from the day with number 0 on, and the nanosecond in
it. Leap seconds have no number of their own, but their nanoseconds are beyond all others. -/
def moment (c : Clock) : Int ×ₗ Nat :=
  toLex (c.date.number * 86400 + c.second - c.ahead * 60, c.nanosecond)

/-- The clock shows a time that exists, and is ahead or behind by less than a day. -/
structure Valid (c : Clock) : Prop where
  /-- The calendar has the day. -/
  date : c.date.isReal = true
  /-- The day has the second. -/
  second : c.second < 86400
  /-- The clock is not ahead by a day. -/
  ahead : c.ahead < 1440
  /-- Nor is it behind by one. -/
  behind : -1440 < c.ahead

end Clock

namespace Instant

/-- The same for a point in time by the clock of universal time. -/
def moment (i : Instant) : Int ×ₗ Nat :=
  toLex (i.date.number * 86400 + i.second, i.nanosecond)

/-- Before everything within a day comes the day. -/
theorem isBefore_iff_moment_lt {a b : Instant} (ha : a.date.isReal = true)
    (hb : b.date.isReal = true) (hsa : a.second < 86400) (hsb : b.second < 86400) :
    a.isBefore b = true ↔ a.moment < b.moment := by
  have hdate := Date.isBefore_iff_number_lt ha hb
  have hsame := Date.eq_iff_number_eq ha hb
  simp only [isBefore, Bool.or_eq_true, Bool.and_eq_true, decide_eq_true_eq, beq_iff_eq, hdate,
    hsame, moment, Prod.Lex.toLex_lt_toLex]
  omega

theorem parse?_eq_map (s : String) : parse? s = (Clock.parse? s).map Clock.instant := by
  unfold parse? Clock.parse?
  simp only [Option.bind_eq_bind, Option.map_bind, Function.comp_def]
  refine congrArg _ (funext fun d => congrArg _ (funext fun t => congrArg _ (funext fun o => ?_)))
  split <;> rfl

theorem isReal_of_date? {cs rest : List Char} {d : Date} (h : date? cs = some (d, rest)) :
    d.isReal = true := by
  simp only [date?, Option.bind_eq_bind, Option.bind_eq_some_iff, Option.ite_none_right_eq_some,
    Option.some.injEq, Prod.mk.injEq] at h
  rcases h with ⟨_, _, _, _, _, _, _, _, _, _, _, _, hreal, rfl, -⟩
  exact hreal

theorem second_lt_of_timeOfDay? {hour minute second nanosecond s n : Nat}
    (h : timeOfDay? hour minute second nanosecond = some (s, n)) : s < 86400 := by
  unfold timeOfDay? at h
  split_ifs at h with hrange hleap
  · cases h
    omega
  · cases h
    omega

theorem second_lt_of_time? {cs rest : List Char} {second nanosecond : Nat}
    (h : time? cs = some ((second, nanosecond), rest)) : second < 86400 := by
  simp only [time?, Option.bind_eq_bind, Option.bind_eq_some_iff, Option.pure_def,
    Option.some.injEq, Prod.mk.injEq] at h
  rcases h with ⟨_, _, _, _, _, _, _, _, _, _, _, _, time, htime, rfl, -⟩
  exact second_lt_of_timeOfDay? htime

theorem lt_of_offsetMinutes? {cs rest : List Char} {minutes : Nat}
    (h : offsetMinutes? cs = some (minutes, rest)) : minutes < 1440 := by
  simp only [offsetMinutes?, Option.bind_eq_bind, Option.bind_eq_some_iff,
    Option.ite_none_right_eq_some, Option.some.injEq, Prod.mk.injEq] at h
  rcases h with ⟨_, _, _, _, _, _, ⟨hhours, hminutes⟩, rfl, -⟩
  omega

theorem ahead_of_offset? {cs rest : List Char} {ahead : Int} (h : offset? cs = some (ahead, rest)) :
    -1440 < ahead ∧ ahead < 1440 := by
  unfold offset? at h
  split at h
  · exact absurd h (by simp only [reduceCtorEq, not_false_eq_true])
  split_ifs at h
  · cases h
    decide
  · rcases Option.map_eq_some_iff.mp h with ⟨⟨minutes, _⟩, hminutes, heq⟩
    have := lt_of_offsetMinutes? hminutes
    cases heq
    omega
  · rcases Option.map_eq_some_iff.mp h with ⟨⟨minutes, _⟩, hminutes, heq⟩
    have := lt_of_offsetMinutes? hminutes
    cases heq
    omega

end Instant

namespace Clock

theorem valid_of_parse? {s : String} {c : Clock} (h : parse? s = some c) : c.Valid := by
  simp only [parse?, Option.bind_eq_bind, Option.bind_eq_some_iff, Option.ite_none_right_eq_some,
    Option.some.injEq] at h
  rcases h with ⟨⟨_, _⟩, hdate, ⟨⟨_, _⟩, _⟩, htime, ⟨_, _⟩, hahead, -, rfl⟩
  exact ⟨Instant.isReal_of_date? hdate, Instant.second_lt_of_time? htime,
    (Instant.ahead_of_offset? hahead).2, (Instant.ahead_of_offset? hahead).1⟩

/-- By the clock of universal time it is the same moment, on a day that exists. A clock that is
ahead may show the day after, and one that is behind the day before, but no other. -/
theorem instant_of_valid {c : Clock} (hc : c.Valid) :
    c.instant.date.isReal = true ∧ c.instant.second < 86400 ∧ c.instant.moment = c.moment := by
  have hsecond := hc.second
  have hahead := hc.ahead
  have hbehind := hc.behind
  have hday : Instant.secondsPerDay = 86400 := rfl
  simp only [instant, Instant.ofClock, Instant.moment, moment]
  split_ifs with hearlier hlater
  · refine ⟨Date.isReal_previous hc.date, by simp only; omega, ?_⟩
    simp only [Date.number_previous hc.date]
    congr 2
    omega
  · refine ⟨Date.isReal_next hc.date, by simp only; omega, ?_⟩
    simp only [Date.number_next hc.date]
    congr 2
    omega
  · refine ⟨hc.date, by simp only; omega, ?_⟩
    simp only
    congr 2
    omega

example : (parse? "2020-03-01T00:30:00+01:00").map moment =
    (parse? "2020-02-29T23:30:00Z").map moment := by
  decide +kernel

/-- The order of points in time that texts write is that of their moments. -/
theorem isBefore_instant_iff {s t : String} {a b : Clock} (ha : parse? s = some a)
    (hb : parse? t = some b) : a.instant.isBefore b.instant = true ↔ a.moment < b.moment := by
  obtain ⟨hadate, hasecond, hamoment⟩ := instant_of_valid (valid_of_parse? ha)
  obtain ⟨hbdate, hbsecond, hbmoment⟩ := instant_of_valid (valid_of_parse? hb)
  rw [Instant.isBefore_iff_moment_lt hadate hbdate hasecond hbsecond, hamoment, hbmoment]

end Clock

end SamlConformance
