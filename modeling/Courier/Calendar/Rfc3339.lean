import Courier.Calendar.Pattern
/-
Dates as RFC 3339 writes them. Moments are written in universal time with a
letter Z and with as many digits after the point as are needed, in groups of
three. There are two readers: a strict one, and one that also takes signed
years, blanks between the parts, and UTC for Z.
-/

namespace Courier.Calendar.Rfc3339

/-! ## Writing -/

/-- A number with at least `width` digits. -/
def padded (width n : Nat) : List Char :=
  let ds := Number.digits n
  List.replicate (width - ds.length) '0' ++ ds

/-- A year: four digits, or a sign before at least four. -/
def writeYear (y : Int) : List Char :=
  if 0 ≤ y ∧ y ≤ 9999 then padded 4 y.toNat
  else (if y < 0 then '-' else '+') :: padded 4 y.natAbs

/-- The fraction of a second in groups of three digits. -/
def writeFraction (nanos : Nat) : List Char :=
  if nanos = 0 then []
  else if nanos % 1000000 = 0 then '.' :: padded 3 (nanos / 1000000)
  else if nanos % 1000 = 0 then '.' :: padded 6 (nanos / 1000)
  else '.' :: padded 9 nanos

/-- The time of a day. -/
def writeTime (second nanos : Nat) : List Char :=
  let leap := 1000000000 ≤ nanos
  padded 2 (second / 3600) ++ ':' :: padded 2 (second / 60 % 60) ++
    ':' :: padded 2 (second % 60 + if leap then 1 else 0) ++ writeFraction (nanos % 1000000000)

/-- A moment in universal time. -/
def write (t : Moment) : List Char :=
  writeYear t.date.year ++ '-' :: padded 2 t.date.month ++ '-' :: padded 2 t.date.day ++
    'T' :: writeTime t.second t.nanos ++ ['Z']

/-! ## Reading -/

/-- The letter or blank between the date and the time. -/
def separator : List Char → Except DateError (List Char)
  | [] => .error .tooShort
  | c :: r => if c = 'T' ∨ c = 't' ∨ c = ' ' then .ok r else .error .invalid

/-- Reads a moment, each field having its full width. -/
def readStrict (cs : List Char) : Except DateError Moment := do
  let (year, r) ← number 4 4 cs
  let r ← expect '-' r
  let (month, r) ← numberIn 2 2 1 12 r
  let r ← expect '-' r
  let (day, r) ← numberIn 2 2 1 31 r
  let r ← separator r
  let (hour, r) ← numberIn 2 2 0 23 r
  let r ← expect ':' r
  let (minute, r) ← numberIn 2 2 0 59 r
  let r ← expect ':' r
  let (second, r) ← numberIn 2 2 0 60 r
  let (nanos, r) ← match r with
    | '.' :: r => fraction r
    | r => .ok (0, r)
  let (offset, r) ← zoneOffset true false true (expect ':') r
  if !r.isEmpty then .error .tooLong
  else
    Fields.moment
      { year := some year, month, day, afternoon := some (12 ≤ hour), hour := some (hour % 12), minute,
        second, nanos, offset }

/-- The fields of a date, blanks allowed between them. -/
def dateDirectives : List Directive :=
  [.year, .blanks, .literal '-', .month, .blanks, .literal '-', .day]

/-- The fields of a time, blanks allowed between them. -/
def timeDirectives : List Directive :=
  [.hour, .blanks, .literal ':', .minute, .blanks, .literal ':', .second, .fraction, .blanks]

/-- The offset at the end. -/
def relaxedOffset (cs : List Char) : Except DateError (Int × List Char) :=
  match afterWord? ['u', 't', 'c'] cs with
  | some r => .ok (0, r)
  | none => zoneOffset true false true skipColonsAndBlanks cs

/-- Reads a moment leniently. -/
def read (cs : List Char) : Except DateError Moment := do
  let (f, r) ← takeAll {} cs dateDirectives
  if r.isEmpty then .error .notEnough
  else
    let r ← separator r
    let (f, r) ← takeAll f r timeDirectives
    if r.isEmpty then .error .notEnough
    else
      let (offset, r) ← relaxedOffset r
      if !(Text.trimStart r).isEmpty then .error .tooLong
      else Fields.moment { f with offset := some offset }

end Courier.Calendar.Rfc3339
