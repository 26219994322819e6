import Courier.Crypto.Octets
/-
Sealing texts with the stream cipher ChaCha20 and the one-time authenticator
Poly1305, as RFC 8439 combines them, without further data to authenticate.
-/

namespace Courier.Crypto.ChaCha

/-! ## The stream -/

/-- Four words of the state, mixed. -/
def quarterRound (s : Array UInt32) (i j k l : Nat) : Array UInt32 :=
  let a := s.getD i 0
  let b := s.getD j 0
  let c := s.getD k 0
  let d := s.getD l 0
  let a := a + b
  let d := rotateLeft (d ^^^ a) 16
  let c := c + d
  let b := rotateLeft (b ^^^ c) 12
  let a := a + b
  let d := rotateLeft (d ^^^ a) 8
  let c := c + d
  let b := rotateLeft (b ^^^ c) 7
  (((s.setIfInBounds i a).setIfInBounds j b).setIfInBounds k c).setIfInBounds l d

/-- Four rounds over the columns and four over the diagonals. -/
def doubleRound (s : Array UInt32) : Array UInt32 :=
  let s := quarterRound s 0 4 8 12
  let s := quarterRound s 1 5 9 13
  let s := quarterRound s 2 6 10 14
  let s := quarterRound s 3 7 11 15
  let s := quarterRound s 0 5 10 15
  let s := quarterRound s 1 6 11 12
  let s := quarterRound s 2 7 8 13
  quarterRound s 3 4 9 14

/-- The words that every state starts with. -/
def constants : List UInt32 := [0x61707865, 0x3320646e, 0x79622d32, 0x6b206574]

/-- Sixty-four octets of the stream of a key of 32 octets and a nonce of 12. -/
def block (key nonce : Octets) (counter : Nat) : Octets :=
  let words (bs : Octets) : List UInt32 := (bs.pieces 4).map Octets.littleWord
  let start := (constants ++ words key ++ UInt32.ofNat counter :: words nonce).toArray
  let mixed := (List.range 10).foldl (fun s _ => doubleRound s) start
  (List.zipWith (· + ·) start.toList mixed.toList).flatMap fun w => Octets.ofNatLittle 4 w.toNat

/-- Octets with the stream over them, from block `counter` on. -/
def stream (key nonce : Octets) (counter : Nat) (bs : Octets) : Octets :=
  (((bs.pieces 64).zipIdx counter).map fun p => Octets.xor p.1 (block key nonce p.2)).flatten

/-! ## The authenticator -/

def prime : Nat := 2 ^ 130 - 5

/-- The tag of some octets under a key that is used once. -/
def tag (key bs : Octets) : Octets :=
  let r := Octets.littleNat (key.take 16) &&& 0x0ffffffc0ffffffc0ffffffc0fffffff
  let s := Octets.littleNat (key.drop 16)
  let sum := (bs.pieces 16).foldl (fun acc piece => (acc + Octets.littleNat (piece ++ [1])) * r % prime) 0
  Octets.ofNatLittle 16 (sum + s)

/-- The tag of a sealed text. -/
def sealTag (key nonce sealed : Octets) : Octets :=
  let zeros := List.replicate ((16 - sealed.length % 16) % 16) 0
  tag ((block key nonce 0).take 32)
    (sealed ++ zeros ++ Octets.ofNatLittle 8 0 ++ Octets.ofNatLittle 8 sealed.length)

/-- Seals octets; the tag comes last. -/
def close (key nonce bs : Octets) : Octets :=
  let sealed := stream key nonce 1 bs
  sealed ++ sealTag key nonce sealed

/-- Opens what was sealed; nothing if the tag does not fit. -/
def open? (key nonce bs : Octets) : Option Octets :=
  if bs.length < 16 then none
  else
    let sealed := bs.take (bs.length - 16)
    if sealTag key nonce sealed = bs.drop (bs.length - 16) then some (stream key nonce 1 sealed) else none

end Courier.Crypto.ChaCha
