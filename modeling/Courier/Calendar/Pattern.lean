import Courier.Calendar.Date
import Courier.Number.Decimal
import Courier.Text.Blank
/-
Reading dates after a pattern. A pattern is a list of directives; each takes
what it needs from the front of the text and notes one field. The fields then
make a moment, if there are enough of them and they agree.
-/

namespace Courier.Calendar

/-- Why a text is no date. -/
inductive DateError
  | outOfRange
  | impossible
  | notEnough
  | invalid
  | tooShort
  | tooLong
  deriving DecidableEq, Repr

def DateError.message : DateError → String
  | .outOfRange => "input is out of range"
  | .impossible => "no possible date and time matching input"
  | .notEnough => "input is not enough for unique date and time"
  | .invalid => "input contains invalid characters"
  | .tooShort => "premature end of input"
  | .tooLong => "trailing input"

/-- The fields noted so far. -/
structure Fields where
  year : Option Int := none
  yearOfCentury : Option Nat := none
  month : Option Nat := none
  day : Option Nat := none
  weekday : Option Nat := none
  /-- Whether the hour is in the second half of the day. -/
  afternoon : Option Bool := none
  /-- The hour within its half of the day. -/
  hour : Option Nat := none
  minute : Option Nat := none
  second : Option Nat := none
  nanos : Option Nat := none
  /-- Seconds that local time is ahead of universal time. -/
  offset : Option Int := none
  deriving Repr

/-! ## Numbers -/

/-- Digits in front, at most `most` of them, after a number `acc`. -/
def takeDigits (most count acc : Nat) : List Char → Nat × Nat × List Char
  | [] => (acc, count, [])
  | c :: r =>
    match most with
    | 0 => (acc, count, c :: r)
    | most + 1 =>
      match Number.digit? c with
      | some d => takeDigits most (count + 1) (acc * 10 + d) r
      | none => (acc, count, c :: r)

/-- The octets that characters take. -/
def octets (cs : List Char) : Nat := cs.foldl (fun n c => n + c.utf8Size) 0

/-- A number of at least `least` and at most `most` digits. -/
def number (least most : Nat) (cs : List Char) : Except DateError (Nat × List Char) :=
  if octets cs < least then .error .tooShort
  else
    let (n, count, r) := takeDigits most 0 0 cs
    if count < least then .error .invalid
    else if 2 ^ 63 ≤ n then .error .outOfRange
    else .ok (n, r)

/-- A number with bounds. -/
def numberIn (least most lo hi : Nat) (cs : List Char) : Except DateError (Nat × List Char) := do
  let (n, r) ← number least most cs
  if lo ≤ n ∧ n ≤ hi then .ok (n, r) else .error .outOfRange

/-- A year as a field; it must fit 32 bits. -/
def yearIn (n : Int) (r : List Char) : Except DateError (Int × List Char) :=
  if -2 ^ 31 ≤ n ∧ n < 2 ^ 31 then .ok (n, r) else .error .outOfRange

/-- A year of up to four digits, or of any number of them after a sign. -/
def signedYear : List Char → Except DateError (Int × List Char)
  | '-' :: r => do let (n, r) ← number 1 r.length r; yearIn (-(n : Int)) r
  | '+' :: r => do let (n, r) ← number 1 r.length r; yearIn n r
  | cs => do let (n, r) ← number 1 4 cs; yearIn n r

/-- One character that must be there. -/
def expect (c : Char) : List Char → Except DateError (List Char)
  | [] => .error .tooShort
  | x :: r => if x = c then .ok r else .error .invalid

/-- Billionths of a second from the digits after a point; those beyond the ninth do not count. -/
def fraction (cs : List Char) : Except DateError (Nat × List Char) := do
  let (n, r) ← number 1 9 cs
  let used := cs.length - r.length
  .ok (n * 10 ^ (9 - used), r.dropWhile Number.isDigit)

/-! ## Names -/

def monthNames : List String :=
  ["january", "february", "march", "april", "may", "june", "july", "august", "september", "october",
   "november", "december"]

def weekdayNames : List String := ["mon", "tue", "wed", "thu", "fri", "sat", "sun"]

/-- What follows a word in front, the letters of which may be of either case. -/
def afterWord? : List Char → List Char → Option (List Char)
  | [], cs => some cs
  | w :: ws, c :: r => if c.toLower = w then afterWord? ws r else none
  | _ :: _, [] => none

/-- The place in a list of the first word the text starts with, cut to three letters. -/
def shortName (names : List String) (cs : List Char) : Except DateError (Nat × List Char) :=
  if octets cs < 3 then .error .tooShort
  else
    match names.findIdx? fun n => (afterWord? (n.toList.take 3) cs).isSome with
    | some i => .ok (i, cs.drop 3)
    | none => .error .invalid

/-- A month by its first three letters or its whole name, counted from 0. -/
def monthName (cs : List Char) : Except DateError (Nat × List Char) := do
  let (i, r) ← shortName monthNames cs
  let rest := (monthNames.getD i "").toList.drop 3
  .ok (i, (afterWord? rest r).getD r)

/-! ## Offsets -/

/-- Two digits in front. -/
def twoDigits (cs : List Char) : Except DateError ((Nat × Nat) × List Char) :=
  if octets cs < 2 then .error .tooShort
  else
    match cs with
    | a :: b :: r =>
      match Number.digit? a, Number.digit? b with
      | some x, some y => .ok ((x, y), r)
      | _, _ => .error .invalid
    | _ => .error .invalid

/-- The minutes of an offset; `missing` says whether they may be left out. -/
def offsetMinutes (missing : Bool) (cs : List Char) : Except DateError (Nat × List Char) :=
  match twoDigits cs with
  | .ok ((x, y), r) => if x ≤ 5 then .ok (10 * x + y, r) else .error .outOfRange
  | .error .tooShort => if missing ∧ cs = [] then .ok (0, cs) else .error .tooShort
  | .error e => .error e

/-- Hours and minutes after the sign of an offset. -/
def offsetAfterSign (negative missing : Bool) (separator : List Char → Except DateError (List Char))
    (cs : List Char) : Except DateError (Int × List Char) := do
  let ((x, y), r) ← twoDigits cs
  let r ← separator r
  let (m, r) ← offsetMinutes missing r
  let s : Int := (10 * x + y) * 3600 + m * 60
  .ok (if negative then -s else s, r)

/-- An offset: a sign, hours and minutes, `separator` going over what stands
between them; `zulu` allows a letter Z instead, `minus` the mathematical minus sign. -/
def zoneOffset (zulu missing minus : Bool) (separator : List Char → Except DateError (List Char)) :
    List Char → Except DateError (Int × List Char)
  | [] => .error .tooShort
  | c :: r =>
    if zulu ∧ (c = 'Z' ∨ c = 'z') then .ok (0, r)
    else if c = '+' then offsetAfterSign false missing separator r
    else if c = '-' ∨ (minus ∧ c = '\u2212') then offsetAfterSign true missing separator r
    else .error .invalid

/-- Colons and blanks in any number. -/
def skipColonsAndBlanks (cs : List Char) : Except DateError (List Char) :=
  .ok (cs.dropWhile fun c => c = ':' || Text.isBlank c)

/-- Hours that the named zones of North America are behind universal time. -/
def namedZone? (name : String) : Option Int :=
  match name with
  | "gmt" | "ut" => some 0
  | "edt" => some (-4)
  | "est" | "cdt" => some (-5)
  | "cst" | "mdt" => some (-6)
  | "mst" | "pdt" => some (-7)
  | "pst" => some (-8)
  | _ => none

/-! ## Patterns -/

inductive Directive
  | literal (c : Char)
  | blanks
  | year | yearOfCentury | month | monthName | day
  | hour | hourOfHalf | half | minute | second
  /-- A point and digits, which may be missing. -/
  | fraction
  /-- Anything without blanks. -/
  | zoneName
  /-- An offset whose minutes may be missing. -/
  | offset
  deriving DecidableEq, Repr

/-- The directives of a pattern as it is written: a letter after a percent sign
is a field, a blank stands for any number of blanks. -/
def directives : List Char → List Directive
  | '%' :: '.' :: 'f' :: r => .fraction :: directives r
  | '%' :: '#' :: 'z' :: r => .offset :: directives r
  | '%' :: c :: r =>
    (match c with
      | 'Y' => .year
      | 'y' => .yearOfCentury
      | 'm' => .month
      | 'B' => .monthName
      | 'd' => .day
      | 'H' => .hour
      | 'I' => .hourOfHalf
      | 'P' => .half
      | 'M' => .minute
      | 'S' => .second
      | 'Z' => .zoneName
      | c => .literal c) :: directives r
  | ' ' :: r => .blanks :: directives r
  | c :: r => .literal c :: directives r
  | [] => []

/-- What one directive takes from a text. -/
def Directive.take (d : Directive) (f : Fields) (cs : List Char) : Except DateError (Fields × List Char) :=
  let start := Text.trimStart cs
  match d with
  | .literal c => do .ok (f, ← expect c cs)
  | .blanks => .ok (f, start)
  | .year => do let (n, r) ← signedYear start; .ok ({ f with year := some n }, r)
  | .yearOfCentury => do let (n, r) ← number 1 2 start; .ok ({ f with yearOfCentury := some n }, r)
  | .month => do let (n, r) ← numberIn 1 2 1 12 start; .ok ({ f with month := some n }, r)
  | .monthName => do let (n, r) ← Calendar.monthName cs; .ok ({ f with month := some (n + 1) }, r)
  | .day => do let (n, r) ← numberIn 1 2 1 31 start; .ok ({ f with day := some n }, r)
  | .hour => do
    let (n, r) ← numberIn 1 2 0 23 start
    .ok ({ f with afternoon := some (12 ≤ n), hour := some (n % 12) }, r)
  | .hourOfHalf => do let (n, r) ← numberIn 1 2 1 12 start; .ok ({ f with hour := some (n % 12) }, r)
  | .half =>
    match cs with
    | a :: m :: r =>
      if m ≠ 'm' ∧ m ≠ 'M' then .error .invalid
      else if a = 'a' ∨ a = 'A' then .ok ({ f with afternoon := some false }, r)
      else if a = 'p' ∨ a = 'P' then .ok ({ f with afternoon := some true }, r)
      else .error .invalid
    | _ => .error .tooShort
  | .minute => do let (n, r) ← numberIn 1 2 0 59 start; .ok ({ f with minute := some n }, r)
  | .second => do let (n, r) ← numberIn 1 2 0 60 start; .ok ({ f with second := some n }, r)
  | .fraction =>
    match cs with
    | '.' :: r => do let (n, r) ← Calendar.fraction r; .ok ({ f with nanos := some n }, r)
    | cs => .ok (f, cs)
  | .zoneName => .ok (f, cs.dropWhile fun c => !Text.isBlank c)
  | .offset => do
    let (n, r) ← zoneOffset true true true skipColonsAndBlanks start
    .ok ({ f with offset := some n }, r)

/-- What the directives of a pattern take from a text, one after the other. -/
def takeAll (f : Fields) (cs : List Char) : List Directive → Except DateError (Fields × List Char)
  | [] => .ok (f, cs)
  | d :: ds =>
    match d.take f cs with
    | .ok (f, r) => takeAll f r ds
    | .error e => .error e

/-! ## Moments from fields -/

namespace Fields

/-- The date that the fields give. -/
def date (f : Fields) : Except DateError Date := do
  let year ← match f.year, f.yearOfCentury with
    | some y, _ => .ok y
    | none, some n => .ok (if n < 70 then 2000 + n else 1900 + n : Int)
    | none, none => .error .notEnough
  let some month := f.month | .error .notEnough
  let some day := f.day | .error .notEnough
  let d : Date := ⟨year, month, day⟩
  if !d.isValid then .error .outOfRange
  else if f.weekday.any (· ≠ d.weekday) then .error .impossible
  else .ok d

/-- The second of the day and the fraction that the fields give. -/
def time (f : Fields) : Except DateError (Nat × Nat) := do
  let some afternoon := f.afternoon | .error .notEnough
  let some hour := f.hour | .error .notEnough
  let some minute := f.minute | .error .notEnough
  let second := f.second.getD 0
  if f.nanos.isSome && f.second.isNone then .error .notEnough
  else
    let nanos := f.nanos.getD 0
    let start := ((if afternoon then 12 else 0) + hour) * 3600 + minute * 60
    .ok (if second = 60 then (start + 59, nanos + 1000000000) else (start + second, nanos))

/-- The local time that the fields give. -/
def localTime (f : Fields) : Except DateError Moment := do
  let d ← f.date
  let (s, n) ← f.time
  .ok ⟨d, s, n⟩

/-- The moment of fields with an offset. -/
def moment (f : Fields) : Except DateError Moment := do
  let some offset := f.offset | .error .notEnough
  let t ← f.localTime
  if offset ≤ -86400 ∨ 86400 ≤ offset then .error .outOfRange
  else
    let u := t.ofLocal offset
    if u.date.isValid then .ok u else .error .impossible

end Fields

/-- The fields of a whole text after a pattern. -/
def readPattern (pattern : String) (cs : List Char) : Except DateError Fields := do
  let (f, r) ← takeAll {} cs (directives pattern.toList)
  if r.isEmpty then .ok f else .error .tooLong

end Courier.Calendar
