import Courier.Configuration.Toml.Text
import Courier.Number.Numeral
import Courier.Calendar.Date
/-
Numbers and dates. Underscores may stand between digits. Dates are kept as
their texts.
-/

namespace Courier.Configuration.Toml

open Scan
open Courier.Number (isDigit Binary64)

/-- More digits of a numeral, an underscore before any of them. -/
def moreDigits (isDigit : Char → Bool) : Scan Unit := do
  let _ ← many (orElse (do let _ ← one isDigit)
    (do let _ ← char '_'; let _ ← wanting ["digit"] (must (one isDigit))))

def digitsFrom (isDigit : Char → Bool) : Scan Unit := do
  let _ ← one isDigit
  moreDigits isDigit

def withoutMarks (cs : List Char) : List Char := cs.filter (· ≠ '_')

/-- A sign and digits, of which only one if it is nought. -/
def decimalDigits : Scan Unit :=
  named "integer" do
    let _ ← maybe (one fun c => c == '+' || c == '-')
    orElse (do let _ ← one (fun c => isDigit c && c != '0'); moreDigits isDigit) (do let _ ← one isDigit)

/-- A whole number within 64 bits. -/
def bounded (n : Int) : Except String Int :=
  if n < -2 ^ 63 then .error "number too small to fit in target type"
  else if 2 ^ 63 ≤ n then .error "number too large to fit in target type"
  else .ok n

/-- A whole number in a base other than ten, after its mark. -/
def inBase (base : Nat) (mark label : String) : Scan Int :=
  let digit (c : Char) : Bool := match Text.hexDigit? c with
    | some d => d < base
    | none => false
  must <| check
    (do let (cs, _) ← named label do
          exactly mark
          written (must (digitsFrom digit))
        return cs)
    fun cs => bounded ((withoutMarks cs).foldl (fun n c => base * n + (Text.hexDigit? c).getD 0) 0 : Nat)

def integer : Scan Int := fun cs =>
  match cs with
  | '0' :: 'x' :: _ => inBase 16 "0x" "hexadecimal integer" cs
  | '0' :: 'o' :: _ => inBase 8 "0o" "octal integer" cs
  | '0' :: 'b' :: _ => inBase 2 "0b" "binary integer" cs
  | _ =>
    match written decimalDigits cs with
    | .ok ((digits, _), r) =>
      match bounded ((Number.int? (withoutMarks digits)).getD 0) with
      | .ok n => .ok (n, r)
      | .error e => .error { rest := cs, cause := some e, final := true }
    | .error m => .error m

/-! ## Doubles -/

def exponent : Scan Unit := do
  let _ ← one fun c => c == 'e' || c == 'E'
  let _ ← maybe (one fun c => c == '+' || c == '-')
  must (digitsFrom isDigit)

def fraction : Scan Unit := do
  let _ ← char '.'
  wanting ["digit"] (must (digitsFrom isDigit))

def numericReal : Scan Binary64 := fun cs =>
  match written (do decimalDigits; orElse exponent (do fraction; let _ ← maybe exponent)) cs with
  | .ok ((digits, _), r) =>
    match Number.real? (withoutMarks digits) with
    | some (.infinite false) | none => .error { rest := cs, final := true }
    | some x => .ok (x, r)
  | .error m => .error m

def infinity : Scan Binary64 := do
  exactly "inf"
  return .infinite false

def noNumber : Scan Binary64 := do
  exactly "nan"
  return .nan

def namedReal : Scan Binary64 := do
  let sign ← maybe (one fun c => c == '+' || c == '-')
  let x ← orElse infinity noNumber
  return if sign = some '-' then x.neg else x

def real : Scan Binary64 := named "floating-point number" (orElse numericReal namedReal)

/-! ## Dates and times -/

/-- A number of so many digits between two bounds. -/
def field (digits low high : Nat) : Scan Nat :=
  check (times digits isDigit) fun ds =>
    let n := (Number.nat? ds).getD 0
    if low ≤ n ∧ n ≤ high then .ok n else .error "value is out of range"

def padded (digits n : Nat) : List Char :=
  let ds := Number.digits n
  List.replicate (digits - ds.length) '0' ++ ds

/-- A date, as it is written again. -/
def date : Scan (List Char) := do
  let y ← field 4 0 9999
  let _ ← char '-'
  let m ← must (field 2 1 12)
  let _ ← must (char '-')
  let d ← must (check (field 2 1 31) fun d =>
    if d ≤ Calendar.monthLength y m then .ok d else .error "value is out of range")
  return padded 4 y ++ '-' :: (padded 2 m ++ '-' :: padded 2 d)

/-- A fraction of a second in at most nine digits, without noughts at the end. -/
def secondFraction : Scan (List Char) := do
  let _ ← char '.'
  let ds ← run1 isDigit
  match ((ds.take 9).reverse.dropWhile (· = '0')).reverse with
  | [] => return []
  | kept => return '.' :: kept

/-- A time of day, as it is written again. -/
def time : Scan (List Char) := do
  let h ← field 2 0 23
  let _ ← char ':'
  must do
    let m ← field 2 0 59
    let _ ← char ':'
    let s ← field 2 0 60
    let f ← maybe secondFraction
    return padded 2 h ++ ':' :: (padded 2 m ++ ':' :: padded 2 s) ++ f.getD []

def offset : Scan (List Char) :=
  named "time offset" <| orElse (do let _ ← one (fun c => c == 'Z' || c == 'z'); return ['Z']) do
    let sign ← one fun c => c == '+' || c == '-'
    must do
      let h ← field 2 0 23
      let _ ← char ':'
      let m ← field 2 0 59
      return (if h = 0 ∧ m = 0 then '+' else sign) :: (padded 2 h ++ ':' :: padded 2 m)

/-- A date, a time, or both with or without an offset. -/
def moment : Scan String :=
  orElse
    (named "date-time" do
      let d ← date
      let rest ← maybe do
        let _ ← one fun c => c == 'T' || c == 't' || c == ' '
        let t ← time
        let o ← maybe offset
        return 'T' :: t ++ o.getD []
      return String.ofList (d ++ rest.getD []))
    (named "time" do
      let t ← time
      return String.ofList t)

end Courier.Configuration.Toml
