import Courier.Number.Decimal
import Courier.Text.Quoted
/-
Addresses of hosts in numbers: four decimal numbers with points between them, or
eight groups of hexadecimal digits with colons between them, where one run of
zero groups may be left out.
-/

namespace Courier.Text.IpAddress

/-- The pieces of a text between the places of a character; there is always one. -/
def pieces (mark : Char) : List Char → List (List Char)
  | [] => [[]]
  | c :: r =>
    if c = mark then [] :: pieces mark r
    else
      match pieces mark r with
      | [] => [[c]]
      | p :: ps => (c :: p) :: ps

/-- A decimal number up to 255, without zeros before it. -/
def isOctet (cs : List Char) : Bool :=
  cs.all Char.isDigit && (cs.length == 1 || cs.head? != some '0') && ((Number.nat? cs).any (· ≤ 255))

/-- Whether a text is an address of the fourth version. -/
def isFourth (cs : List Char) : Bool := (pieces '.' cs).length == 4 && (pieces '.' cs).all isOctet

/-- One to four hexadecimal digits. -/
def isGroup (cs : List Char) : Bool := !cs.isEmpty && cs.length ≤ 4 && cs.all fun c => (hexDigit? c).isSome

/-- How many groups stand in a text, the last two of which may be an address of the fourth version. -/
def groups? (mayEndInFour : Bool) (cs : List Char) : Option Nat :=
  if cs.isEmpty then some 0
  else
    let ps := pieces ':' cs
    let last := ps.getLast?.getD []
    if !ps.dropLast.all isGroup then none
    else if isGroup last then some ps.length
    else if mayEndInFour && isFourth last then some (ps.length + 1)
    else none

/-- A text before and after the first two colons in a row. -/
def splitGap : List Char → Option (List Char × List Char)
  | ':' :: ':' :: r => some ([], r)
  | c :: r => (splitGap r).map fun (before, after) => (c :: before, after)
  | [] => none

/-- Whether a text is an address of the sixth version. -/
def isSixth (cs : List Char) : Bool :=
  match splitGap cs with
  | none => groups? true cs == some 8
  | some (before, after) =>
    match groups? false before, groups? true after with
    | some m, some n => m + n ≤ 7
    | _, _ => false

/-- Whether a text is an address. -/
def isAddress (cs : List Char) : Bool := isFourth cs || isSixth cs

end Courier.Text.IpAddress
