import Courier.Number.Binary64
import Courier.Number.Decimal
/-
The shortest decimal that reads back as a given double: for one digit, two
digits and so on up to seventeen, the two decimals next to the value on that
grid are tried, and the first grid with a hit gives the answer, of two hits
the nearer one.
-/

namespace Courier.Number.Binary64

/-- The interval of reals that round to a finite double, and the double, all
times four in units of `2^exponent`; its ends belong to it if `closed`. -/
structure Basin where
  low : Nat
  value : Nat
  high : Nat
  exponent : Int
  closed : Bool

/-- The reals that round to `m · 2^e`. Below a power of two the gap is half as wide. -/
def basin (m : Nat) (e : Int) : Basin where
  low := if m = 2 ^ 52 ∧ minExponent < e then 4 * m - 1 else 4 * m - 2
  value := 4 * m
  high := 4 * m + 2
  exponent := e
  closed := m % 2 == 0

/-- The decimal `d · 10^s` in the units of a basin, as a fraction. -/
def Basin.decimal (b : Basin) (d : Nat) (s : Int) : Nat × Nat :=
  let (n, q) := if 0 ≤ s then (d * 10 ^ s.toNat, 1) else (d, 10 ^ (-s).toNat)
  if 0 ≤ b.exponent then (4 * n, q * 2 ^ b.exponent.toNat) else (4 * n * 2 ^ (-b.exponent).toNat, q)

/-- Whether `d · 10^s` rounds to the double. -/
def Basin.holds (b : Basin) (d : Nat) (s : Int) : Bool :=
  let (n, q) := b.decimal d s
  if b.closed then b.low * q ≤ n && n ≤ b.high * q else b.low * q < n && n < b.high * q

/-- How far `d · 10^s` is from the double, as a fraction. -/
def Basin.distance (b : Basin) (d : Nat) (s : Int) : Nat × Nat :=
  let (n, q) := b.decimal d s
  (if n ≤ b.value * q then b.value * q - n else n - b.value * q, q)

/-- The multiple of `10^s` next below the double. -/
def Basin.below (b : Basin) (s : Int) : Nat :=
  let (n, q) := if 0 ≤ b.exponent then (b.value * 2 ^ b.exponent.toNat, 4)
    else (b.value, 4 * 2 ^ (-b.exponent).toNat)
  if 0 ≤ s then n / (q * 10 ^ s.toNat) else n * 10 ^ (-s).toNat / q

/-- The shorter form of `d · 10^s`: zeros at the end of `d` move to the exponent. -/
def stripZeros (fuel d : Nat) (s : Int) : Nat × Int :=
  match fuel with
  | 0 => (d, s)
  | fuel + 1 => if d % 10 = 0 ∧ d ≠ 0 then stripZeros fuel (d / 10) (s + 1) else (d, s)

/-- Tries the grids `10^s`, `10^(s-1)`, … in turn. -/
def Basin.search (b : Basin) : Nat → Int → Nat × Int
  | 0, s => (b.below s, s)
  | tries + 1, s =>
    let d := b.below s
    match b.holds d s && d != 0, b.holds (d + 1) s with
    | true, true =>
      let (x, p) := b.distance d s
      let (y, q) := b.distance (d + 1) s
      if x * q < y * p ∨ (x * q = y * p ∧ d % 2 = 0) then (d, s) else (d + 1, s)
    | true, false => (d, s)
    | false, true => (d + 1, s)
    | false, false => b.search tries (s - 1)

/-- The power of ten of the leading digit of `m · 2^e`, or one more. -/
def leadingPower (m : Nat) (e : Int) : Int :=
  let bits : Int := m.log2 + e
  (bits * 30103) / 100000 + 1

/-- The digits and the power of ten of the shortest decimal that rounds to `m · 2^e`. -/
def shortest (m : Nat) (e : Int) : Nat × Int :=
  if m = 0 then (0, 0)
  else
    let (d, s) := (basin m e).search 20 (leadingPower m e)
    stripZeros 20 d s

/-- How a format writes doubles: positional from `10^least` on and below
`10^most`, with a sign before every exponent or only before a negative one. -/
structure Style where
  least : Int
  most : Int
  plus : Bool
  /-- Written after a whole number. -/
  whole : String

/-- Digits `ds` with the point after `point` of them, zeros filled in. -/
def positional (ds : List Char) (point : Int) (whole : String) : List Char :=
  if point ≤ 0 then '0' :: '.' :: (List.replicate (-point).toNat '0' ++ ds)
  else if ds.length ≤ point.toNat then
    ds ++ List.replicate (point.toNat - ds.length) '0' ++ whole.toList
  else ds.take point.toNat ++ '.' :: ds.drop point.toNat

/-- Digits with one of them before the point, and an exponent. -/
def scientific (ds : List Char) (power : Int) (plus : Bool) : List Char :=
  let mantissa := match ds with
    | [] => []
    | [d] => [d]
    | d :: r => d :: '.' :: r
  mantissa ++ 'e' :: ((if plus ∧ 0 ≤ power then ['+'] else []) ++ Number.decimal power)

/-- A double in decimal, in a given style. -/
def render (style : Style) : Binary64 → String
  | .nan => "NaN"
  | .infinite s => if s then "-inf" else "inf"
  | .finite s m e =>
    let sign := if s then ['-'] else []
    let body :=
      if m = 0 then '0' :: style.whole.toList
      else
        let (d, x) := shortest m e
        let ds := digits d
        let power := x + ds.length - 1
        if style.least ≤ power ∧ power < style.most then positional ds (power + 1) style.whole
        else scientific ds power style.plus
    String.ofList (sign ++ body)

end Courier.Number.Binary64
