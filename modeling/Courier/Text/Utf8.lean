/-
Characters from octets. Octets that form no character are kept apart, one by
one, so that nothing of the input is lost: every octet is either part of a
character or stands for itself.
-/

namespace Courier.Text

/-- Whether an octet continues a character. -/
def continues (b : UInt8) : Bool := 0x80 ≤ b && b < 0xC0

/-- The bits an octet adds to the character it continues. -/
def low6 (b : UInt8) : Nat := b.toNat % 64

/-- The character that some octets start with, and how many of them it takes. -/
def leading? : List UInt8 → Option (Char × Nat)
  | a :: r =>
    if a < 0x80 then some (Char.ofNat a.toNat, 1)
    else match r with
    | b :: r =>
      if !continues b then none
      else if 0xC2 ≤ a && a < 0xE0 then some (Char.ofNat (a.toNat % 32 * 64 + low6 b), 2)
      else match r with
      | c :: r =>
        if !continues c then none
        else if (0xE1 ≤ a && a < 0xF0 && a != 0xED) || (a == 0xE0 && 0xA0 ≤ b) || (a == 0xED && b < 0xA0) then
          some (Char.ofNat ((a.toNat % 16 * 64 + low6 b) * 64 + low6 c), 3)
        else match r with
        | d :: _ =>
          if !continues d then none
          else if (0xF1 ≤ a && a < 0xF4) || (a == 0xF0 && 0x90 ≤ b) || (a == 0xF4 && b < 0x90) then
            some (Char.ofNat (((a.toNat % 8 * 64 + low6 b) * 64 + low6 c) * 64 + low6 d), 4)
          else none
        | [] => none
      | [] => none
    | [] => none
  | [] => none

/-- Characters of octets; `skip` octets in front belong to the character before. -/
def decodeFrom (skip : Nat) (acc : List (Option Char)) : List UInt8 → List (Option Char)
  | [] => acc.reverse
  | b :: r =>
    if skip ≠ 0 then decodeFrom (skip - 1) acc r
    else match leading? (b :: r) with
    | some (c, n) => decodeFrom (n - 1) (some c :: acc) r
    | none => decodeFrom 0 (none :: acc) r

/-- The characters of some octets, with `none` for each octet that is part of no character. -/
def decode (bs : List UInt8) : List (Option Char) := decodeFrom 0 [] bs

/-- The text of some octets, if they form characters throughout. -/
def decode? (bs : List UInt8) : Option String :=
  ((decode bs).mapM id).map String.ofList

/-- The octets of a text. -/
def encode (s : String) : List UInt8 := s.toUTF8.toList

/-- How many of some octets, the second on, go with a broken character that they start. -/
def brokenExtent : List UInt8 → Nat
  | a :: r =>
    match r with
    | b :: r =>
      if (a == 0xE0 && 0xA0 ≤ b && b < 0xC0) || (0xE1 ≤ a && a < 0xF0 && a != 0xED && continues b)
          || (a == 0xED && 0x80 ≤ b && b < 0xA0) then 1
      else if (a == 0xF0 && 0x90 ≤ b && b < 0xC0) || (0xF1 ≤ a && a < 0xF4 && continues b)
          || (a == 0xF4 && 0x80 ≤ b && b < 0x90) then
        match r with
        | c :: _ => if continues c then 2 else 1
        | [] => 1
      else 0
    | [] => 0
  | [] => 0

/-- Characters of octets, a replacement character for each broken one. -/
def decodeLossyFrom (skip : Nat) (acc : List Char) : List UInt8 → List Char
  | [] => acc.reverse
  | b :: r =>
    if skip ≠ 0 then decodeLossyFrom (skip - 1) acc r
    else match leading? (b :: r) with
    | some (c, n) => decodeLossyFrom (n - 1) (c :: acc) r
    | none => decodeLossyFrom (brokenExtent (b :: r)) ('\uFFFD' :: acc) r

/-- The text of some octets, a replacement character for each broken one. -/
def decodeLossy (bs : List UInt8) : String := String.ofList (decodeLossyFrom 0 [] bs)

end Courier.Text
