/-!
# Instant — points in time on the calendar of UTC

A date of the proleptic Gregorian calendar and a time of day. A leap second is the second `59` with
a nanosecond count of a thousand million or more; it lies between that second and the next minute.

* `Instant.compare` orders instants by date, second and nanosecond.
* `Instant.ofCivil?` reads a local time with its offset from UTC; it fails exactly on values that
  name no time, and on dates outside the calendar.
-/

namespace LogQuery

/-- Whether the year has a leap day. -/
def isLeapYear (year : Int) : Bool := year % 4 == 0 && (year % 100 != 0 || year % 400 == 0)

/-- The number of days in a month of a year. -/
def daysInMonth (year : Int) (month : Nat) : Nat :=
  if month = 2 then (if isLeapYear year then 29 else 28)
  else if month = 4 ∨ month = 6 ∨ month = 9 ∨ month = 11 then 30
  else 31

/-- The first and the last year of the calendar. -/
def firstYear : Int := -262143

@[inherit_doc firstYear] def lastYear : Int := 262142

/-- A date of the calendar. -/
structure Date where
  year : Int
  month : Nat
  day : Nat
  valid : (firstYear ≤ year ∧ year ≤ lastYear) ∧ (1 ≤ month ∧ month ≤ 12) ∧
    1 ≤ day ∧ day ≤ daysInMonth year month
  deriving DecidableEq

namespace Date

/-- The date with these parts, if there is one. -/
def of? (year : Int) (month day : Nat) : Option Date :=
  if h : (firstYear ≤ year ∧ year ≤ lastYear) ∧ (1 ≤ month ∧ month ≤ 12) ∧
      1 ≤ day ∧ day ≤ daysInMonth year month then
    some ⟨year, month, day, h⟩
  else none

/-- The day after, inside the calendar. -/
def next? (d : Date) : Option Date :=
  if d.day < daysInMonth d.year d.month then of? d.year d.month (d.day + 1)
  else if d.month < 12 then of? d.year (d.month + 1) 1
  else of? (d.year + 1) 1 1

/-- The day before, inside the calendar. -/
def previous? (d : Date) : Option Date :=
  if 1 < d.day then of? d.year d.month (d.day - 1)
  else if 1 < d.month then of? d.year (d.month - 1) (daysInMonth d.year (d.month - 1))
  else of? (d.year - 1) 12 31

/-- The date some days away: the day before, the day itself or the day after. -/
def move? (d : Date) (days : Int) : Option Date :=
  if days < 0 then d.previous? else if 0 < days then d.next? else some d

end Date

/-- A point in time: a date, the second of the day, and the nanosecond of the second. -/
structure Instant where
  date : Date
  second : Nat
  nano : Nat
  valid : second < 86400 ∧ nano < 2000000000 ∧ (nano < 1000000000 ∨ second % 60 = 59)
  deriving DecidableEq

namespace Instant

/-- The parts of an instant, the most significant first. -/
def parts (i : Instant) : List Int := [i.date.year, i.date.month, i.date.day, i.second, i.nano]

/-- The earlier of two instants is the lesser. -/
def compare (a b : Instant) : Ordering := Ord.compare a.parts b.parts

/-- The instant with these parts, if there is one. -/
def of? (date : Date) (second nano : Nat) : Option Instant :=
  if h : second < 86400 ∧ nano < 2000000000 ∧ (nano < 1000000000 ∨ second % 60 = 59) then
    some ⟨date, second, nano, h⟩
  else none

/-- The instant of a local date and time that is `offset` minutes ahead of UTC. The second `60` is
the leap second of its minute. -/
def ofCivil? (year : Int) (month day hour minute second nano : Nat) (offset : Int) :
    Option Instant := do
  let date ← Date.of? year month day
  guard (hour < 24 ∧ minute < 60 ∧ second ≤ 60 ∧ nano < 1000000000)
  guard (-1440 < offset ∧ offset < 1440)
  let (second, nano) := if second = 60 then (59, nano + 1000000000) else (second, nano)
  let utc : Int := (hour * 3600 + minute * 60 + second : Nat) - offset * 60
  let date ← date.move? (utc / 86400)
  of? date (utc % 86400).toNat nano

end Instant

end LogQuery
