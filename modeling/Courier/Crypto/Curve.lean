import Courier.Crypto.Octets
/-
Key agreement on Curve25519 (X25519): multiples of points given by their first
coordinate, by the Montgomery ladder.
-/

namespace Courier.Crypto.Curve

def prime : Nat := 2 ^ 255 - 19

def sub (a b : Nat) : Nat := (a + (prime - b % prime)) % prime

/-- Powers by repeated squaring. -/
def power (base : Nat) (n : Nat) (result : Nat) : Nat :=
  if n = 0 then result
  else power (base * base % prime) (n / 2) (if n % 2 = 1 then result * base % prime else result)
termination_by n
decreasing_by omega

def inverse (a : Nat) : Nat := power (a % prime) (prime - 2) 1

/-- Two neighbouring multiples of a point in projective form. -/
structure Rung where
  x2 : Nat
  z2 : Nat
  x3 : Nat
  z3 : Nat

/-- One step up the ladder for one bit of the scalar. -/
def step (x1 : Nat) (r : Rung) (bit : Bool) : Rung :=
  let (x2, z2, x3, z3) := if bit then (r.x3, r.z3, r.x2, r.z2) else (r.x2, r.z2, r.x3, r.z3)
  let a := (x2 + z2) % prime
  let aa := a * a % prime
  let b := sub x2 z2
  let bb := b * b % prime
  let e := sub aa bb
  let da := sub x3 z3 * a % prime
  let cb := (x3 + z3) * b % prime
  let sum := (da + cb) % prime
  let difference := sub da cb
  let x3 := sum * sum % prime
  let z3 := x1 * (difference * difference % prime) % prime
  let x2 := aa * bb % prime
  let z2 := e * ((aa + 121665 * e) % prime) % prime
  if bit then ⟨x3, z3, x2, z2⟩ else ⟨x2, z2, x3, z3⟩

/-- A scalar with its three lowest bits cleared and its highest one set. -/
def clamp (n : Nat) : Nat := (n % 2 ^ 254) / 8 * 8 + 2 ^ 254

/-- The multiple of a point; both are 32 octets. -/
def multiply (scalar point : Octets) : Octets :=
  let n := clamp (Octets.littleNat scalar)
  let x1 := Octets.littleNat point % 2 ^ 255 % prime
  let top := (List.range 255).reverse.foldl (fun r i => step x1 r (n.testBit i)) ⟨1, 0, x1, 1⟩
  Octets.ofNatLittle 32 (top.x2 * inverse top.z2 % prime)

/-- The public point of a secret scalar. -/
def publicPoint (scalar : Octets) : Octets := multiply scalar (Octets.ofNatLittle 32 9)

end Courier.Crypto.Curve
