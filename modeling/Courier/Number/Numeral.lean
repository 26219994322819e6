import Courier.Number.Binary64
import Courier.Number.Decimal
/-
Doubles written in decimal: a sign, digits with a point somewhere among them,
an exponent; or the words for infinity and for what is no number.
-/

namespace Courier.Number

/-- The double nearest to ± n · 10^exponent, where `n` has `count` digits. What
is beyond every double is told by the exponent alone. -/
def nearestDouble (negative : Bool) (n count : Nat) (exponent : Int) : Binary64 :=
  if n = 0 ∨ exponent + count < -400 then Binary64.zero negative
  else if 400 < exponent + count then .infinite negative
  else Binary64.ofDecimal negative n exponent

/-- A double without its sign: digits, a point, digits, and an exponent. -/
def unsignedReal? (negative : Bool) (cs : List Char) : Option Binary64 :=
  let front := cs.takeWhile isDigit
  let rest := cs.dropWhile isDigit
  let (back, rest) := match rest with
    | '.' :: r => (r.takeWhile isDigit, r.dropWhile isDigit)
    | r => ([], r)
  if front = [] ∧ back = [] then none
  else do
    let exponent : Int ← match rest with
      | [] => some 0
      | e :: r => if e = 'e' ∨ e = 'E' then int? r else none
    let n ← nat? (front ++ back)
    let count := ((front ++ back).dropWhile (· = '0')).length
    some (nearestDouble negative n count (exponent - back.length))

/-- A double as numerals and words spell it. -/
def real? (cs : List Char) : Option Binary64 :=
  let (negative, body) := match cs with
    | '-' :: r => (true, r)
    | '+' :: r => (false, r)
    | r => (false, r)
  let word := String.ofList (body.map Char.toLower)
  if word = "inf" ∨ word = "infinity" then some (.infinite negative)
  else if word = "nan" then some .nan
  else unsignedReal? negative body

end Courier.Number
