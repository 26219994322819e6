/-
Dates of the Gregorian calendar, extended in both directions, and moments: a
date with a second of its day, in universal time. A leap second is the last
second of its day with a fraction of one or more.
-/

namespace Courier.Calendar

structure Date where
  year : Int
  month : Nat
  day : Nat
  deriving DecidableEq, Repr, Inhabited

/-- Whether a year has 366 days. -/
def isLeap (year : Int) : Bool := year % 4 = 0 && (year % 100 ≠ 0 || year % 400 = 0)

/-- How many days a month has. -/
def monthLength (year : Int) (month : Nat) : Nat :=
  if month = 2 then (if isLeap year then 29 else 28)
  else if month = 4 ∨ month = 6 ∨ month = 9 ∨ month = 11 then 30
  else 31

/-- The first and the last year of a date. -/
def firstYear : Int := -262143
def lastYear : Int := 262142

namespace Date

def isValid (d : Date) : Bool :=
  firstYear ≤ d.year && d.year ≤ lastYear && 1 ≤ d.month && d.month ≤ 12 &&
    1 ≤ d.day && d.day ≤ monthLength d.year d.month

/-- Days from 1970-01-01. Years are counted from March on, so that the day a
leap year has more comes last. -/
def dayNumber (d : Date) : Int :=
  let y := if d.month ≤ 2 then d.year - 1 else d.year
  let m : Int := if d.month ≤ 2 then d.month + 9 else d.month - 3
  365 * y + y / 4 - y / 100 + y / 400 + (153 * m + 2) / 5 + d.day - 1 - 719468

/-- The day after. -/
def next (d : Date) : Date :=
  if d.day < monthLength d.year d.month then { d with day := d.day + 1 }
  else if d.month < 12 then ⟨d.year, d.month + 1, 1⟩
  else ⟨d.year + 1, 1, 1⟩

/-- The day before. -/
def previous (d : Date) : Date :=
  if 1 < d.day then { d with day := d.day - 1 }
  else if 1 < d.month then ⟨d.year, d.month - 1, monthLength d.year (d.month - 1)⟩
  else ⟨d.year - 1, 12, 31⟩

/-- The day of the week, Monday being 0. -/
def weekday (d : Date) : Nat := ((d.dayNumber + 3) % 7).toNat

/-- The date with a number of days from 1970-01-01. -/
def ofDayNumber (n : Int) : Date :=
  let z := n + 719468
  let era := z / 146097
  let dayOfEra := z % 146097
  let yearOfEra := (dayOfEra - dayOfEra / 1460 + dayOfEra / 36524 - dayOfEra / 146096) / 365
  let dayOfYear := dayOfEra - (365 * yearOfEra + yearOfEra / 4 - yearOfEra / 100)
  let m := (5 * dayOfYear + 2) / 153
  let day := dayOfYear - (153 * m + 2) / 5 + 1
  let month := if m < 10 then m + 3 else m - 9
  ⟨yearOfEra + era * 400 + (if month ≤ 2 then 1 else 0), month.toNat, day.toNat⟩

end Date

/-- A point in time, in universal time. -/
structure Moment where
  date : Date
  /-- Seconds since midnight, below 86400. -/
  second : Nat
  /-- Billionths of a second; from 10^9 on in a leap second. -/
  nanos : Nat := 0
  deriving DecidableEq, Repr, Inhabited

namespace Moment

/-- Midnight at the start of 1970. -/
def epoch : Moment := ⟨⟨1970, 1, 1⟩, 0, 0⟩

/-- Seconds since 1970. -/
def unixSeconds (t : Moment) : Int := 86400 * t.date.dayNumber + t.second

/-- Thousandths of a second since 1970. -/
def unixMillis (t : Moment) : Int := 1000 * t.unixSeconds + (t.nanos / 1000000 : Nat)

/-- The moment some billionths of a second after the start of 1970. -/
def ofUnixNanos (n : Nat) : Moment :=
  let seconds := n / 1000000000
  ⟨Date.ofDayNumber (seconds / 86400 : Nat), seconds % 86400, n % 1000000000⟩

/-- The moment in universal time of a local time that is `offset` seconds ahead,
less than a day. -/
def ofLocal (local_ : Moment) (offset : Int) : Moment :=
  let s : Int := local_.second - offset
  if s < 0 then { local_ with date := local_.date.previous, second := (s + 86400).toNat }
  else if 86400 ≤ s then { local_ with date := local_.date.next, second := (s - 86400).toNat }
  else { local_ with second := s.toNat }

end Moment
end Courier.Calendar
