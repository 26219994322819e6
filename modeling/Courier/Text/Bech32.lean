import Courier.Text.Ascii
import Courier.Crypto.Octets
/-
Bech32: a readable name, a digit 1, and data in groups of five bits with a
checksum of six groups. All letters are of one case.
-/

namespace Courier.Text.Bech32

def alphabet : List Char := "qpzry9x8gf2tvdw0s3jn54khce6mua7l".toList

/-- The value of a letter of data, in lower case. -/
def value? (c : Char) : Option Nat := alphabet.findIdx? (· == c)

/-- The remainders that the five bits shifted out bring in. -/
def generators : List Nat := [0x3b6a57b2, 0x26508e6d, 0x1ea119fa, 0x3d4233dd, 0x2a1462b3]

/-- One more group in a checksum. -/
def checksumStep (sum group : Nat) : Nat :=
  let top := sum / 2 ^ 25
  generators.zipIdx.foldl (fun acc g => if top.testBit g.2 then acc ^^^ g.1 else acc)
    ((sum % 2 ^ 25) * 32 ^^^ group)

/-- The checksum over a name and groups of data. -/
def checksum (name : List Char) (groups : List Nat) : Nat :=
  let spread := name.map (fun c => c.toNat / 32) ++ 0 :: name.map (fun c => c.toNat % 32)
  (spread ++ groups).foldl checksumStep 1

/-- What stands before and after the last digit 1. -/
def split? (cs : List Char) : Option (List Char × List Char) :=
  let r := cs.reverse
  let data := r.takeWhile (· ≠ '1')
  match r.drop data.length with
  | _ :: name => some (name.reverse, data.reverse)
  | [] => none

/-- Octets from groups of five bits; the bits left over must be few and zero. -/
def octets? (groups : List Nat) : Option (List UInt8) :=
  let bits := groups.flatMap fun g => [g.testBit 4, g.testBit 3, g.testBit 2, g.testBit 1, g.testBit 0]
  let count := bits.length / 8
  let rest := bits.drop (8 * count)
  if 5 ≤ rest.length ∨ rest.any id then none
  else
    some ((List.range count).map fun i =>
      UInt8.ofNat (((bits.drop (8 * i)).take 8).foldl (fun n b => 2 * n + if b then 1 else 0) 0))

/-- Reads a text as a name in lower case and octets. -/
def decode? (s : String) : Option (List Char × List UInt8) := do
  let cs := s.toList
  if cs.any Char.isLower ∧ cs.any Char.isUpper then none
  else
    let (name, data) ← split? (cs.map Char.toLower)
    if name.isEmpty ∨ 83 < name.length ∨ name.any (fun c => c.toNat < 33 ∨ 126 < c.toNat) then none
    else
      let groups ← data.mapM value?
      if groups.length < 6 ∨ checksum name groups ≠ 1 then none
      else do
        let octets ← octets? (groups.take (groups.length - 6))
        some (name, octets)

end Courier.Text.Bech32
