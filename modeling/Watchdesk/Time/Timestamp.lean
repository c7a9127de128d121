import Watchdesk.Time.Date
import Watchdesk.Text.Digits

/-!
# Timestamps

A moment in universal time with nanoseconds. The last second of a minute may hold up to two
seconds' worth of nanoseconds: the second half of it is a leap second. `Timestamp.text` writes a
moment in the RFC 3339 form.
-/

namespace Watchdesk

/-- A moment: a date, the second of the day, and the nanosecond, which reaches beyond one second
within a leap second. -/
structure Timestamp where
  date : Date
  second : Nat
  nano : Nat
deriving DecidableEq, Repr, Inhabited

namespace Timestamp

/-- How many seconds a day has. -/
def daySeconds : Nat := 86400

/-- How many nanoseconds a second has. -/
def secondNanos : Nat := 1000000000

/-- The second counted from the start of 1970. -/
def epochSecond (t : Timestamp) : Int := t.date.dayNumber * 86400 + t.second

/-- The moment that a clock shows which is `offset` seconds ahead, less than a day, of universal
time. -/
def behind (t : Timestamp) (offset : Int) : Timestamp :=
  let s := (t.second : Int) - offset
  if s < 0 then { t with date := t.date.previous, second := (s + daySeconds).toNat }
  else if daySeconds ≤ s then { t with date := t.date.next, second := (s - daySeconds).toNat }
  else { t with second := s.toNat }

/-- A year: four digits from 0 to 9999, otherwise a sign and at least four digits. -/
def yearText (year : Int) : List Char :=
  if 0 ≤ year ∧ year ≤ 9999 then Digits.padded 4 year.toNat
  else (if year < 0 then '-' else '+') :: Digits.padded 4 year.natAbs

/-- The nanoseconds behind the point: none, three, six or nine digits. -/
def fractionText (nano : Nat) : List Char :=
  if nano = 0 then []
  else if nano % 1000000 = 0 then '.' :: Digits.padded 3 (nano / 1000000)
  else if nano % 1000 = 0 then '.' :: Digits.padded 6 (nano / 1000)
  else '.' :: Digits.padded 9 nano

/-- The RFC 3339 form in universal time. A leap second has the number 60. -/
def text (t : Timestamp) : List Char :=
  let s := t.second % 60 + t.nano / secondNanos
  yearText t.date.year ++ '-' :: Digits.padded 2 t.date.month ++ '-' :: Digits.padded 2 t.date.day
    ++ 'T' :: Digits.padded 2 (t.second / 3600) ++ ':' :: Digits.padded 2 (t.second / 60 % 60)
    ++ ':' :: Digits.padded 2 s ++ fractionText (t.nano % secondNanos) ++ ['Z']

end Timestamp

end Watchdesk
