/-
Base64 with the standard alphabet, four characters for three octets and a
padded last group. Reading accepts exactly what writing produces: whole groups,
padding only at the end, and no bits set that belong to no octet.
-/

namespace Courier.Text.Base64

/-- The character of a number below 64. -/
def symbol (n : Nat) : Char :=
  Char.ofNat (if n < 26 then 65 + n else if n < 52 then 71 + n else if n < 62 then n - 4
    else if n = 62 then 43 else 47)

/-- The number a character stands for. -/
def value? (c : Char) : Option Nat :=
  let n := c.toNat
  if 65 ≤ n ∧ n ≤ 90 then some (n - 65)
  else if 97 ≤ n ∧ n ≤ 122 then some (n - 71)
  else if 48 ≤ n ∧ n ≤ 57 then some (n + 4)
  else if n = 43 then some 62
  else if n = 47 then some 63
  else none

/-- Octets in groups of four characters; `pad` fills the last group. -/
def encode (pad : Bool) : List UInt8 → List Char
  | [] => []
  | [a] =>
    let a := a.toNat
    symbol (a / 4) :: symbol (a % 4 * 16) :: (if pad then ['=', '='] else [])
  | [a, b] =>
    let a := a.toNat
    let b := b.toNat
    symbol (a / 4) :: symbol (a % 4 * 16 + b / 16) :: symbol (b % 16 * 4) :: (if pad then ['='] else [])
  | a :: b :: c :: r =>
    let x := a.toNat
    let y := b.toNat
    let z := c.toNat
    symbol (x / 4) :: symbol (x % 4 * 16 + y / 16) :: symbol (y % 16 * 4 + z / 64) :: symbol (z % 64) ::
      encode pad r

/-- The octets of padded groups, in reverse after `acc`. -/
def decodeFrom (acc : List UInt8) : List Char → Option (List UInt8)
  | [] => some acc.reverse
  | [a, b, '=', '='] => do
    let a ← value? a
    let b ← value? b
    if b % 16 = 0 then some ((UInt8.ofNat (a * 4 + b / 16) :: acc).reverse) else none
  | [a, b, c, '='] => do
    let a ← value? a
    let b ← value? b
    let c ← value? c
    if c % 4 = 0 then
      some ((UInt8.ofNat (b % 16 * 16 + c / 4) :: UInt8.ofNat (a * 4 + b / 16) :: acc).reverse)
    else none
  | a :: b :: c :: d :: r =>
    match value? a, value? b, value? c, value? d with
    | some a, some b, some c, some d =>
      decodeFrom (UInt8.ofNat (c % 4 * 64 + d) :: UInt8.ofNat (b % 16 * 16 + c / 4) ::
        UInt8.ofNat (a * 4 + b / 16) :: acc) r
    | _, _, _, _ => none
  | _ => none

/-- The octets of padded groups. -/
def decode? (s : String) : Option (List UInt8) := decodeFrom [] s.toList

end Courier.Text.Base64
