/-!
# Calendar dates

Dates of the proleptic Gregorian calendar, the day before and after a date, and the number of a
day counted from 1970-01-01.
-/

namespace Watchdesk

/-- A calendar date. Year 0 is the year before year 1. -/
structure Date where
  year : Int
  month : Nat
  day : Nat
deriving DecidableEq, Repr, Inhabited

namespace Date

/-- A year of 366 days. -/
def isLeap (year : Int) : Bool := year % 4 == 0 && (year % 100 != 0 || year % 400 == 0)

/-- How many days a month has. -/
def daysIn (year : Int) (month : Nat) : Nat :=
  if month = 2 then (if isLeap year then 29 else 28)
  else if month = 4 ∨ month = 6 ∨ month = 9 ∨ month = 11 then 30
  else 31

/-- The years that can be represented. -/
def firstYear : Int := -262143

/-- The last year that can be represented. -/
def lastYear : Int := 262142

/-- The date with these parts, if there is such a date. -/
def ofParts? (year : Int) (month day : Nat) : Option Date :=
  if firstYear ≤ year ∧ year ≤ lastYear ∧ 1 ≤ month ∧ month ≤ 12 ∧ 1 ≤ day ∧
      day ≤ daysIn year month then
    some ⟨year, month, day⟩
  else none

/-- The following day. -/
def next (d : Date) : Date :=
  if d.day < daysIn d.year d.month then { d with day := d.day + 1 }
  else if d.month < 12 then ⟨d.year, d.month + 1, 1⟩
  else ⟨d.year + 1, 1, 1⟩

/-- The day before. -/
def previous (d : Date) : Date :=
  if 1 < d.day then { d with day := d.day - 1 }
  else if 1 < d.month then ⟨d.year, d.month - 1, daysIn d.year (d.month - 1)⟩
  else ⟨d.year - 1, 12, 31⟩

/-- How many days of a year lie before a month. -/
def daysBefore (year : Int) : Nat → Nat
  | 0 => 0
  | m + 1 => if m = 0 then 0 else daysBefore year m + daysIn year m

/-- How many days lie between 1 January of year 0 and 1 January of a year. -/
def yearStart (year : Int) : Int :=
  365 * year + (year + 3) / 4 - (year + 99) / 100 + (year + 399) / 400

/-- The number of the day, counted from 1970-01-01. -/
def dayNumber (d : Date) : Int :=
  yearStart d.year + daysBefore d.year d.month + d.day - 1 - 719528

end Date

end Watchdesk
