import Courier.Number.Power
/-
Double precision numbers (IEEE 754 binary64) in exact arithmetic. A finite
number is a sign, a significand below 2^53 and a power of two; every operation
computes the exact result as a fraction and rounds it to the nearest double,
a tie going to the even significand.
-/

namespace Courier.Number

/-- A double precision number. A finite one is canonical when its significand
is below 2^53, its exponent at least -1074, and one of them is as large, or as
small, as it can be. -/
inductive Binary64
  /-- The number ± significand · 2^exponent. -/
  | finite (negative : Bool) (significand : Nat) (exponent : Int)
  | infinite (negative : Bool)
  | nan
  deriving DecidableEq, Repr, Inhabited

namespace Binary64

/-- The least exponent of a finite double. -/
def minExponent : Int := -1074

/-- The greatest exponent of a finite double. -/
def maxExponent : Int := 971

def zero (negative : Bool) : Binary64 := .finite negative 0 minExponent

/-- The fraction `num / den` in units of `2^e`, again as a fraction. -/
def inUnits (num den : Nat) (e : Int) : Nat × Nat :=
  if 0 ≤ e then (num, den * 2 ^ e.toNat) else (num * 2 ^ (-e).toNat, den)

/-- The natural number nearest to a fraction, a tie going to the even one. -/
def nearestEven (num den : Nat) : Nat :=
  let q := num / den
  let r := num % den
  if 2 * r < den then q else if den < 2 * r then q + 1 else if q % 2 = 0 then q else q + 1

/-- The exponent at which the significand of `num / den` has 53 bits, or the least one. -/
def unitExponent (num den : Nat) : Int :=
  let guess : Int := (num.log2 : Int) - (den.log2 : Int) - 52
  let (n, d) := inUnits num den guess
  let q := n / d
  let e := if q < 2 ^ 52 then guess - 1 else if 2 ^ 53 ≤ q then guess + 1 else guess
  if e < minExponent then minExponent else e

/-- The double nearest to ± `num / den`. -/
def round (negative : Bool) (num den : Nat) : Binary64 :=
  if num = 0 ∨ den = 0 then zero negative
  else
    let e := unitExponent num den
    let (n, d) := inUnits num den e
    let m := nearestEven n d
    let (m, e) := if m = 2 ^ 53 then (2 ^ 52, e + 1) else (m, e)
    if maxExponent < e then .infinite negative else .finite negative m e

/-- The double nearest to a natural number. -/
def ofNat (n : Nat) : Binary64 := round false n 1

/-- The double nearest to a whole number. -/
def ofInt : Int → Binary64
  | .ofNat n => round false n 1
  | .negSucc n => round true (n + 1) 1

/-- The double nearest to ± digits · 10^exponent. -/
def ofDecimal (negative : Bool) (digits : Nat) (exponent : Int) : Binary64 :=
  if 0 ≤ exponent then round negative (digits * 10 ^ exponent.toNat) 1
  else round negative digits (10 ^ (-exponent).toNat)

def isZero : Binary64 → Bool
  | .finite _ 0 _ => true
  | _ => false

def isNegative : Binary64 → Bool
  | .finite s _ _ => s
  | .infinite s => s
  | .nan => false

def neg : Binary64 → Binary64
  | .finite s m e => .finite (!s) m e
  | .infinite s => .infinite (!s)
  | .nan => .nan

/-- ± m · 2^e rounded. -/
def roundScaled (negative : Bool) (m : Nat) (e : Int) : Binary64 :=
  if 0 ≤ e then round negative (m * 2 ^ e.toNat) 1 else round negative m (2 ^ (-e).toNat)

def mul : Binary64 → Binary64 → Binary64
  | .nan, _ => .nan
  | _, .nan => .nan
  | .infinite s, .infinite t => .infinite (s != t)
  | .infinite s, .finite t m _ => if m = 0 then .nan else .infinite (s != t)
  | .finite s m _, .infinite t => if m = 0 then .nan else .infinite (s != t)
  | .finite s m e, .finite t n f => roundScaled (s != t) (m * n) (e + f)

def add : Binary64 → Binary64 → Binary64
  | .nan, _ => .nan
  | _, .nan => .nan
  | .infinite s, .infinite t => if s = t then .infinite s else .nan
  | .infinite s, .finite .. => .infinite s
  | .finite .., .infinite t => .infinite t
  | .finite s m e, .finite t n f =>
    let low := if e ≤ f then e else f
    let a : Int := (m * 2 ^ (e - low).toNat : Nat)
    let b : Int := (n * 2 ^ (f - low).toNat : Nat)
    let sum := (if s then -a else a) + (if t then -b else b)
    if sum = 0 then zero (s && t) else roundScaled (sum < 0) sum.natAbs low

def div : Binary64 → Binary64 → Binary64
  | .nan, _ => .nan
  | _, .nan => .nan
  | .infinite _, .infinite _ => .nan
  | .infinite s, .finite t _ _ => .infinite (s != t)
  | .finite s _ _, .infinite t => zero (s != t)
  | .finite s m e, .finite t n f =>
    if n = 0 then (if m = 0 then .nan else .infinite (s != t))
    else
      let d := e - f
      if 0 ≤ d then round (s != t) (m * 2 ^ d.toNat) n else round (s != t) m (n * 2 ^ (-d).toNat)

/-- Whether one number is below another; never so for a number that is none. -/
def lt : Binary64 → Binary64 → Bool
  | .nan, _ => false
  | _, .nan => false
  | .infinite s, .infinite t => s && !t
  | .infinite s, .finite .. => s
  | .finite .., .infinite t => !t
  | .finite s m e, .finite t n f =>
    let low := if e ≤ f then e else f
    let a : Int := (m * 2 ^ (e - low).toNat : Nat)
    let b : Int := (n * 2 ^ (f - low).toNat : Nat)
    (if s then -a else a) < (if t then -b else b)

/-- The lesser of two numbers; if one of them is no number, the other. -/
def min (a b : Binary64) : Binary64 :=
  match a, b with
  | .nan, b => b
  | a, .nan => a
  | a, b => if lt b a then b else a

/-- The greater of two numbers; if one of them is no number, the other. -/
def max (a b : Binary64) : Binary64 :=
  match a, b with
  | .nan, b => b
  | a, .nan => a
  | a, b => if lt a b then b else a

/-- The whole part of a number brought into the range from 0 to `limit`; 0 for what is no number. -/
def toNatWithin (limit : Nat) : Binary64 → Nat
  | .nan => 0
  | .infinite true => 0
  | .infinite false => limit
  | .finite true _ _ => 0
  | .finite false m e =>
    let n := if 0 ≤ e then m * 2 ^ e.toNat else m / 2 ^ (-e).toNat
    Nat.min n limit

/-- The whole part of a number brought into the range between two bounds. -/
def toIntWithin (lo hi : Int) : Binary64 → Int
  | .nan => 0
  | .infinite s => if s then lo else hi
  | .finite s m e =>
    let n : Int := (if 0 ≤ e then m * 2 ^ e.toNat else m / 2 ^ (-e).toNat : Nat)
    Max.max lo (Min.min hi (if s then -n else n))

/-- The nearest whole number, a half going away from zero. -/
def nearest : Binary64 → Binary64
  | .finite s m e =>
    if 0 ≤ e then .finite s m e else round s ((2 * m + 2 ^ (-e).toNat) / 2 ^ ((-e).toNat + 1)) 1
  | x => x

/-- Powers by repeated squaring, the bits of the exponent from the least one on. -/
def powFrom (result base : Binary64) (n : Nat) : Binary64 :=
  let result := if n % 2 = 1 then mul result base else result
  if n / 2 = 0 then result else powFrom result (mul base base) (n / 2)
termination_by n
decreasing_by omega

/-- A power with a natural exponent. -/
def pow (base : Binary64) (n : Nat) : Binary64 := powFrom (ofNat 1) base n

end Binary64
end Courier.Number
