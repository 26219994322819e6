import Courier.Calendar.Rfc3339
import Courier.Calendar.MailDate
import Courier.Text.Shape
/-
Dates in whatever notation a webhook may use. The notations are tried in a
fixed order, and the first one that gives a moment wins; a notation whose zone
cannot be read ends the search. Times without a zone are in universal time. A
date without a time takes the time of day of `now`, a time without a date its
date.
-/

namespace Courier.Calendar.FreeForm

open Text (Shape)

/-- What one notation makes of a text. -/
inductive Reading
  | other
  | moment (t : Moment)
  | refused
  deriving Repr

def Reading.ofOption : Option Moment → Reading
  | some t => .moment t
  | none => .other

/-! ## Shapes -/

def digit (n : Nat) : Shape := .run Number.isDigit n (some 0)

def digitsUpTo (least most : Nat) : Shape := .run Number.isDigit least (some (most - least))

def letters (least most : Nat) : Shape := .run Char.isAlpha least (some (most - least))

def blanks : Shape := .run Text.isBlank 1 none

def someBlanks : Shape := .run Text.isBlank 0 none

def one (s : String) : Shape := .oneOf [s]

def maybe (s : String) : Shape := .optional (one s)

/-- Seconds after a colon, which may be missing. -/
def seconds : Shape := .optional (.seq (one ":") (digit 2))

/-- A fraction after a point, which may be missing. -/
def fraction : Shape := .optional (.seq (one ".") (digitsUpTo 1 9))

def half : Shape := .seq someBlanks (.optional (.oneOf ["am", "pm", "AM", "PM"]))

/-- A character of an offset: a digit or from plus to colon. -/
def isOffsetChar (c : Char) : Bool := '+' ≤ c && c ≤ ':'

/-- A name or an offset of a zone. -/
def zone : Shape := .run (fun c => isOffsetChar c || c.isAlpha) 3 (some 3)

/-- Hours, minutes, and what may follow them. -/
def clock (least : Nat) : List Shape := [digitsUpTo least 2, one ":", digit 2, seconds]

/-- A date of numbers with a mark between them. -/
def dashed (mark : String) (first second third : Shape) : List Shape := [first, one mark, second, one mark, third]

/-! ## Reading after patterns -/

/-- What the first of some patterns gives that gives anything. -/
def firstOf {α : Type} (patterns : List String) (make : Fields → Except DateError α) (cs : List Char) : Option α :=
  patterns.findSome? fun p =>
    match readPattern p cs >>= make with
    | .ok a => some a
    | .error _ => none

/-- Every time pattern after a date pattern. -/
def withTimes (date : String) (times : List String) : List String := times.map fun t => date ++ " " ++ t

/-- A local time after patterns, in universal time. -/
def timed (shape : List Shape) (patterns : List String) (edit : List Char → List Char) (cs : List Char) : Reading :=
  if (Shape.sequence shape).covers cs then .ofOption (firstOf patterns Fields.localTime (edit cs)) else .other

/-- A date after patterns, at the time of day of `now`. -/
def dated (now : Moment) (shape : List Shape) (patterns : List String) (cs : List Char) : Reading :=
  if (Shape.sequence shape).covers cs then
    .ofOption ((firstOf patterns Fields.date cs).map fun d => { now with date := d })
  else .other

/-- The offset of a zone in seconds. An unknown name counts as universal time. -/
def zoneSeconds? (cs : List Char) : Option Int :=
  let offset? (separator : List Char → Except DateError (List Char)) : Option Int :=
    match zoneOffset false false false separator cs with
    | .ok (n, _) => if n ≤ -86400 ∨ 86400 ≤ n then none else some n
    | .error _ => none
  if cs.contains ':' then offset? skipColonsAndBlanks
  else
    let name := cs.takeWhile Char.isAlpha
    if name.isEmpty then offset? .ok
    else some ((namedZone? (String.ofList (name.map Char.toLower))).getD 0 * 3600)

/-- A local time after patterns and a zone after it. -/
def zoned (front tail : List Shape) (make : Int → List Char → Option Moment) (cs : List Char) : Reading :=
  match Shape.second? (Shape.sequence front) (Shape.sequence tail) cs with
  | none => .other
  | some zone =>
    match zoneSeconds? (Text.trim zone) with
    | none => .refused
    | some offset => .ofOption ((make offset cs).map fun t => t.ofLocal offset)

/-- A text with every occurrence of a piece replaced. -/
def replace (piece replacement : String) (cs : List Char) : List Char :=
  (String.intercalate replacement ((String.ofList cs).splitOn piece)).toList

/-! ## The notations -/

def isoDate : List Shape := dashed "-" (digit 4) (digit 2) (digit 2)

def slashDate : List Shape := dashed "/" (digitsUpTo 1 2) (digitsUpTo 1 2) (digitsUpTo 2 4)

def plainTimes : List String := ["%H:%M:%S", "%H:%M", "%H:%M:%S%.f", "%I:%M:%S %P", "%I:%M %P"]

def wholeTimes : List String := ["%H:%M:%S", "%H:%M", "%I:%M:%S %P", "%I:%M %P"]

/-- The date of a moment as it is put before a time alone. -/
def writeDate (t : Moment) : List Char :=
  Rfc3339.writeYear t.date.year ++ '-' :: Rfc3339.padded 2 t.date.month ++ '-' :: Rfc3339.padded 2 t.date.day ++ [' ']

/-- The local time of a moment in a zone. -/
def shifted (t : Moment) (offset : Int) : Moment := t.ofLocal (-offset)

/-- All notations in the order in which they are tried. -/
def notations (now : Moment) : List (List Char → Reading) :=
  let ok (e : Except DateError Moment) : Reading := .ofOption e.toOption
  [fun cs => ok (MailDate.read cs),
   fun cs => ok (Rfc3339.readStrict cs),
   fun cs =>
    if (Shape.sequence (isoDate ++ blanks :: clock 2 ++ [fraction, .run isOffsetChar 3 (some 3)])).covers cs then
      .ofOption (firstOf (withTimes "%Y-%m-%d" ["%H:%M:%S%#z", "%H:%M:%S%.f%#z", "%H:%M%#z"]) Fields.moment cs)
    else .other,
   timed (isoDate ++ blanks :: clock 2 ++ [fraction, half])
    (withTimes "%Y-%m-%d" ["%H:%M:%S", "%H:%M", "%H:%M:%S%.f", "%I:%M:%S %P", "%I:%M %P"]) id,
   zoned (isoDate ++ blanks :: clock 2 ++ [fraction]) [someBlanks, zone] fun _ =>
    firstOf (withTimes "%Y-%m-%d" ["%H:%M:%S %Z", "%H:%M %Z", "%H:%M:%S%.f %Z"]) Fields.localTime,
   dated now isoDate ["%Y-%m-%d"],
   zoned isoDate [someBlanks, zone] fun offset cs =>
    (firstOf ["%Y-%m-%d %Z"] Fields.date cs).map fun d => { shifted now offset with date := d },
   timed (clock 1 ++ [half]) (withTimes "%Y-%m-%d" wholeTimes) (writeDate now ++ ·),
   zoned (clock 1 ++ [half]) [blanks, zone] fun offset cs =>
    firstOf (withTimes "%Y-%m-%d" (wholeTimes.map (· ++ " %Z"))) Fields.localTime (writeDate (shifted now offset) ++ cs),
   dated now (dashed "-" (digit 4) (letters 3 9) (digit 2)) ["%Y-%B-%d"],
   timed ([letters 3 3, blanks, digitsUpTo 1 2, someBlanks, maybe "at", blanks] ++ clock 1 ++ [fraction, half])
    (("%Y %B %d at %I:%M %P") :: withTimes "%Y %B %d" plainTimes)
    fun cs => (writeDate now).takeWhile (· ≠ '-') ++ ' ' :: cs,
   timed ([letters 3 9, maybe ".", blanks, digitsUpTo 1 2, one ",", blanks, digitsUpTo 2 4, maybe ",", blanks] ++
      clock 1 ++ [half])
    (withTimes "%B %d %Y" wholeTimes) fun cs => replace ". " " " (replace ", " " " cs),
   zoned ([letters 3 9, blanks, digitsUpTo 1 2, maybe ",", blanks, digit 4, someBlanks, maybe ",", maybe "at", blanks] ++
      clock 2 ++ [half]) [blanks, zone] fun _ cs =>
    firstOf (withTimes "%B %d %Y" (["%H:%M:%S", "%H:%M", "%I:%M:%S %P", "%I:%M %P"].map (· ++ " %Z")))
      Fields.localTime (replace "at" "" (replace "," "" cs)),
   fun cs => dated now [letters 3 9, maybe ".", blanks, digitsUpTo 1 2, one ",", blanks, digitsUpTo 2 4]
      ["%B %d %y", "%B %d %Y"] (replace ". " " " (replace ", " " " cs)),
   timed ([digitsUpTo 1 2, blanks, letters 3 9, blanks, digitsUpTo 2 4, maybe ",", blanks] ++ clock 1 ++ [fraction])
    (withTimes "%d %B %Y" plainTimes) (replace ", " " "),
   dated now [digitsUpTo 1 2, blanks, letters 3 9, blanks, digitsUpTo 2 4] ["%d %B %y", "%d %B %Y"],
   timed (slashDate ++ blanks :: clock 1 ++ [fraction, half])
    (withTimes "%m/%d/%y" plainTimes ++ withTimes "%m/%d/%Y" plainTimes) id,
   dated now slashDate ["%m/%d/%y", "%m/%d/%Y"],
   timed (dashed "/" (digit 4) (digitsUpTo 1 2) (digitsUpTo 1 2) ++ blanks :: clock 1 ++ [fraction, half])
    (withTimes "%Y/%m/%d" plainTimes) id,
   dated now (dashed "/" (digit 4) (digitsUpTo 1 2) (digitsUpTo 1 2)) ["%Y/%m/%d"],
   dated now (dashed "." (digitsUpTo 1 4) (digitsUpTo 1 4) (digitsUpTo 1 4)) ["%m.%d.%y", "%m.%d.%Y", "%Y.%m.%d", "%y.%m.%d"],
   timed [digit 6, blanks, digit 2, one ":", digit 2, one ":", digit 2] ["%y%m%d %H:%M:%S"] id,
   timed [digit 4, one "年", digit 2, one "月", digit 2, one "日", digit 2, one "时", digit 2, one "分", digit 2, one "秒"]
    ["%Y年%m月%d日%H时%M分%S秒"] id,
   dated now [digit 4, one "年", digit 2, one "月", digit 2, one "日"] ["%Y年%m月%d日"]]

/-- The moment a text means. -/
def read? (now : Moment) (s : String) : Option Moment :=
  go s.toList (notations now)
where
  go (cs : List Char) : List (List Char → Reading) → Option Moment
    | [] => none
    | n :: r =>
      match n cs with
      | .moment t => some t
      | .refused => none
      | .other => go cs r

/-- Seconds since 1970 of the moment a text means. -/
def unixSeconds? (now : Moment) (s : String) : Option Int := (read? now s).map Moment.unixSeconds

end Courier.Calendar.FreeForm
