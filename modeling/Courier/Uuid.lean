import Courier.Text.Quoted
import Courier.Number.Decimal
/-
Universally unique identifiers: 128 bits, written as 32 hexadecimal digits in
five groups. They are also read without hyphens, in braces, and as a URN.
-/

namespace Courier

structure Uuid where
  value : Nat
  deriving DecidableEq, Repr, Inhabited

namespace Uuid

/-- Why a text is no identifier. -/
inductive Malformed
  | character (c : Char) (place : Nat)
  | length (n : Nat)
  | groupCount (n : Nat)
  | groupLength (group wanted found : Nat)
  deriving DecidableEq, Repr

def Malformed.message : Malformed → String
  | .character c i => "invalid character: found `" ++ c.toString ++ "` at " ++ toString i
  | .length n => "invalid length: expected length 32 for simple format, found " ++ toString n
  | .groupCount n => "invalid group count: expected 5, found " ++ toString n
  | .groupLength g w n =>
    "invalid group length in group " ++ toString g ++ ": expected " ++ toString w ++ ", found " ++ toString n

/-- The lowest `count` hexadecimal digits of a number. -/
def hexDigits : Nat → Nat → List Char
  | 0, _ => []
  | count + 1, n => hexDigits count (n / 16) ++ [Text.hexDigit (n % 16)]

/-- How many digits each group has. -/
def groups : List Nat := [8, 4, 4, 4, 12]

/-- Digits in groups with hyphens between them. -/
def hyphenate : List Nat → List Char → List Char
  | [], ds => ds
  | [_], ds => ds
  | n :: m :: r, ds => ds.take n ++ '-' :: hyphenate (m :: r) (ds.drop n)

def toChars (u : Uuid) : List Char := hyphenate groups (hexDigits 32 u.value)

/-- The written form. -/
def text (u : Uuid) : String := String.ofList u.toChars

/-- The value of a hexadecimal digit of either case. -/
def hexValue? (c : Char) : Option Nat :=
  if '0' ≤ c ∧ c ≤ '9' then some (c.toNat - 48)
  else if 'a' ≤ c ∧ c ≤ 'f' then some (c.toNat - 87)
  else if 'A' ≤ c ∧ c ≤ 'F' then some (c.toNat - 55)
  else none

/-- The value of digits after a number. -/
def readHex (acc : Nat) : List Char → Option Nat
  | [] => some acc
  | c :: r => (hexValue? c).bind fun d => readHex (acc * 16 + d) r

/-- The digits of groups with hyphens between them. -/
def ungroup? : List Nat → List Char → Option (List Char)
  | [], cs => if cs.isEmpty then some [] else none
  | [n], cs => if cs.length = n then some cs else none
  | n :: m :: r, cs =>
    match cs.drop n with
    | '-' :: rest => (ungroup? (m :: r) rest).map (cs.take n ++ ·)
    | _ => none

/-- What stands between braces or after the mark of a URN, how much stands
before it, and whether there was neither. -/
def unwrapped (cs : List Char) : List Char × Nat × Bool :=
  match cs with
  | '\x7b' :: r => if r.getLast? = some '\x7d' then (r.dropLast, 1, false) else (cs, 0, true)
  | 'u' :: 'r' :: 'n' :: ':' :: 'u' :: 'u' :: 'i' :: 'd' :: ':' :: r => (r, 9, false)
  | cs => (cs, 0, true)

/-- Octets before the first character that is neither a digit nor a hyphen, and the character. -/
def badCharacter? (place : Nat) : List Char → Option (Char × Nat)
  | [] => none
  | c :: r => if c = '-' ∨ (hexValue? c).isSome then badCharacter? (place + c.utf8Size) r else some (c, place)

/-- The lengths of the pieces between hyphens. -/
def pieceLengths (n : Nat) : List Char → List Nat
  | [] => [n]
  | c :: r => if c = '-' then n :: pieceLengths 0 r else pieceLengths (n + 1) r

/-- The first group of a wrong length, of those before the last. -/
def wrongGroup (index : Nat) : List Nat → List Nat → Option Malformed
  | w :: w' :: ws, n :: ns => if n = w then wrongGroup (index + 1) (w' :: ws) ns else some (.groupLength index w n)
  | _, _ => none

/-- What is wrong with a text that is no identifier. -/
def diagnose (cs : List Char) : Malformed :=
  let (body, start, plain) := unwrapped cs
  match badCharacter? start body with
  | some (c, i) => .character c i
  | none =>
    let lengths := pieceLengths 0 body
    if plain && lengths.length == 1 then .length cs.length
    else if lengths.length ≠ 5 then .groupCount lengths.length
    else (wrongGroup 0 groups lengths).getD (.groupLength 4 12 (cs.length - 24))

/-- Reads an identifier. -/
def parse (s : String) : Except Malformed Uuid :=
  let cs := s.toList
  let digits? :=
    if cs.length = 32 then some cs
    else
      let (body, _, _) := unwrapped cs
      ungroup? groups body
  match digits?.bind (readHex 0) with
  | some n => .ok ⟨n⟩
  | none => .error (diagnose cs)

/-- The identifier of 128 random bits: six of them say that it is random. -/
def ofRandom (n : Nat) : Uuid :=
  let version := 4 * 2 ^ 76
  let variant := 2 ^ 63
  ⟨n % 2 ^ 128 / 2 ^ 80 * 2 ^ 80 + version + n % 2 ^ 76 / 2 ^ 64 * 2 ^ 64 + variant + n % 2 ^ 62⟩

end Uuid
end Courier
