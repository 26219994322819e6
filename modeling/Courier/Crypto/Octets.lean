import Courier.Number.Power
/-
Octets as numbers and back, and octets cut into pieces of one length.
-/

namespace Courier.Crypto

abbrev Octets := List UInt8

namespace Octets

/-- The number whose least octet comes first. -/
def littleNat : Octets → Nat
  | [] => 0
  | b :: r => b.toNat + 256 * littleNat r

/-- `count` octets of a number, the least one first. -/
def ofNatLittle (count n : Nat) : Octets :=
  match count with
  | 0 => []
  | k + 1 => UInt8.ofNat (n % 256) :: ofNatLittle k (n / 256)

/-- `count` octets of a number, the greatest one first. -/
def ofNatBig (count n : Nat) : Octets := (ofNatLittle count n).reverse

/-- Pieces of `size` octets, the last one of what is left. -/
def piecesFrom (size : Nat) (acc : List Octets) (fuel : Nat) (bs : Octets) : List Octets :=
  match fuel with
  | 0 => acc.reverse
  | fuel + 1 =>
    match bs with
    | [] => acc.reverse
    | bs => piecesFrom size (bs.take size :: acc) fuel (bs.drop size)

/-- Pieces of `size` octets, the last one of what is left; none of no octets. -/
def pieces (size : Nat) (bs : Octets) : List Octets := piecesFrom size [] bs.length bs

/-- Exclusive or, as far as both go. -/
def xor (a b : Octets) : Octets := List.zipWith (· ^^^ ·) a b

/-- A 32-bit word from four octets, the least one first. -/
def littleWord (bs : Octets) : UInt32 := UInt32.ofNat (littleNat bs)

/-- A 32-bit word from four octets, the greatest one first. -/
def bigWord (bs : Octets) : UInt32 := UInt32.ofNat (littleNat bs.reverse)

end Octets

/-- A word turned left by a number of bits between 1 and 31. -/
def rotateLeft (w : UInt32) (n : UInt32) : UInt32 := (w <<< n) ||| (w >>> (32 - n))

end Courier.Crypto
