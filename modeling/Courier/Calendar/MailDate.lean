import Courier.Calendar.Pattern
/-
Dates as mail headers write them: an optional day of the week, day, name of the
month, year, time and zone, with comments in parentheses at the end.
-/

namespace Courier.Calendar.MailDate

/-- Blanks, at least one. -/
def blanks (cs : List Char) : Except DateError (List Char) :=
  let r := Text.trimStart cs
  if r.length < cs.length then .ok r else .error .invalid

/-- The zone: a name or an offset without a colon. -/
def zone (cs : List Char) : Except DateError (Int × List Char) :=
  let name := cs.takeWhile Char.isAlpha
  let rest := cs.drop name.length
  if name.isEmpty then zoneOffset false false false .ok cs
  else
    let lower := name.map Char.toLower
    match namedZone? (String.ofList lower), lower with
    | some h, _ => .ok (h * 3600, rest)
    | none, [c] => if c = 'j' then .error .invalid else .ok (0, rest)
    | none, _ => .error .invalid

/-- What follows a comment, the text standing `depth` parentheses deep in it. -/
def endOfComment? (depth : Nat) : List Char → Option (List Char)
  | [] => none
  | '\\' :: _ :: r => endOfComment? depth r
  | ['\\'] => none
  | '(' :: r => endOfComment? (depth + 1) r
  | ')' :: r => if depth = 0 then some r else endOfComment? (depth - 1) r
  | _ :: r => endOfComment? depth r

/-- Whether nothing but comments is left. -/
def onlyComments (fuel : Nat) (cs : List Char) : Bool :=
  cs.isEmpty ||
    match fuel with
    | 0 => false
    | fuel + 1 =>
      match Text.trimStart cs with
      | '(' :: r => (endOfComment? 0 r).any fun r => onlyComments fuel r
      | _ => false

/-- The year that digits stand for: two of them mean a year from 1950 to 2049,
three count from 1900. -/
def fullYear (digits n : Nat) : Int :=
  if digits = 2 then (if n < 50 then 2000 + n else 1900 + n : Nat)
  else if digits = 3 then (1900 + n : Nat)
  else n

/-- Reads a moment. -/
def read (cs : List Char) : Except DateError Moment := do
  let cs := Text.trimStart cs
  let (weekday, r) ← match shortName weekdayNames cs with
    | .ok (w, r) => do .ok (some w, ← expect ',' r)
    | .error _ => .ok (none, cs)
  let (day, r) ← numberIn 1 2 1 31 (Text.trimStart r)
  let r ← blanks r
  let (month, r) ← shortName monthNames r
  let r ← blanks r
  let (n, after) ← number 2 r.length r
  let (year, r) ← yearIn (fullYear (r.length - after.length) n) after
  let r ← blanks r
  let (hour, r) ← numberIn 2 2 0 23 r
  let r ← expect ':' (Text.trimStart r)
  let (minute, r) ← numberIn 2 2 0 59 (Text.trimStart r)
  let (second, r) ← match Text.trimStart r with
    | ':' :: r => do let (s, r) ← numberIn 2 2 0 60 r; .ok (some s, r)
    | _ => .ok (none, r)
  let r ← blanks r
  let (offset, r) ← zone r
  if !onlyComments r.length r then .error .tooLong
  else
    Fields.moment
      { year := some year, month := some (month + 1), day, weekday, afternoon := some (12 ≤ hour),
        hour := some (hour % 12), minute, second, offset }

end Courier.Calendar.MailDate
