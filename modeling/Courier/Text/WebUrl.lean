import Courier.Text.Utf8
/-
Addresses of web pages: `http` or `https`, an authority with a host that is not
empty, and a path and a query of characters that may stand there. The checks go
octet by octet.
-/

namespace Courier.Text.WebUrl

/-- The longest address accepted, in octets. -/
def maxLength : Nat := 65534

/-- An octet of a literal character. -/
def octet (c : Char) : UInt8 := UInt8.ofNat c.toNat

def isDigitOctet (b : UInt8) : Bool := 48 ≤ b && b ≤ 57

def isLetterOctet (b : UInt8) : Bool := (65 ≤ b && b ≤ 90) || (97 ≤ b && b ≤ 122)

/-- The octets that may stand in an address at all, apart from the percent sign. -/
def isUriOctet (b : UInt8) : Bool :=
  isDigitOctet b || isLetterOctet b || ("!#$&'()*+,-./:;=?@[]_~".toList.map octet).contains b

/-- What has been seen of an authority. -/
structure AuthorityScan where
  colons : Nat := 0
  opened : Bool := false
  closed : Bool := false
  percent : Bool := false
  afterAt : Option Nat := none

/-- The length of the authority that some octets start with, if it is well formed. -/
def authorityFrom (seen : AuthorityScan) (n : Nat) : List UInt8 → Option Nat
  | [] => finish seen n
  | b :: r =>
    if b = octet '/' ∨ b = octet '?' ∨ b = octet '#' then finish seen n
    else if b = octet ':' then
      if 8 ≤ seen.colons then none
      else authorityFrom { seen with colons := seen.colons + 1 } (n + 1) r
    else if b = octet '[' then
      if seen.percent || seen.opened then none
      else authorityFrom { seen with opened := true } (n + 1) r
    else if b = octet ']' then
      if !seen.opened || seen.closed then none
      else authorityFrom { seen with closed := true, colons := 0, percent := false } (n + 1) r
    else if b = octet '@' then
      authorityFrom { seen with colons := 0, percent := false, afterAt := some (n + 1) } (n + 1) r
    else if b = octet '%' then authorityFrom { seen with percent := true } (n + 1) r
    else if isUriOctet b then authorityFrom seen (n + 1) r
    else none
where
  /-- Brackets in pairs, at most one colon for the port, something after the last
  at sign, no percent sign in the host. -/
  finish (seen : AuthorityScan) (n : Nat) : Option Nat :=
    if seen.opened != seen.closed || 1 < seen.colons || (0 < n && seen.afterAt == some n) || seen.percent then none
    else some n

/-- The length of the authority that some octets start with; 0 if there is none. -/
def authority? (bs : List UInt8) : Option Nat := authorityFrom {} 0 bs

/-- The host of an authority: what follows the last at sign, up to the port. -/
def host (authority : List UInt8) : List UInt8 :=
  let hostPort := (authority.reverse.takeWhile (· != octet '@')).reverse
  match hostPort with
  | b :: _ =>
    if b = octet '[' then hostPort.takeWhile (· != octet ']') ++ [octet ']']
    else hostPort.takeWhile (· != octet ':')
  | [] => []

/-- Octets that may stand in a path. -/
def isPathOctet (b : UInt8) : Bool :=
  b == 0x21 || b == 0x22 || (0x24 ≤ b && b ≤ 0x3B) || b == 0x3D || (0x40 ≤ b && b ≤ 0x5F) ||
  (0x61 ≤ b && b ≤ 0x7E) || 0x80 ≤ b

/-- Octets that may stand in a query. -/
def isQueryOctet (b : UInt8) : Bool :=
  b == 0x21 || (0x24 ≤ b && b ≤ 0x3B) || b == 0x3D || (0x3F ≤ b && b ≠ 0x7F)

/-- The path and the query of some octets up to the fragment, if all of them may stand there. -/
def pathAndQuery? (inQuery : Bool) : List UInt8 → Option (List UInt8)
  | [] => some []
  | b :: r =>
    if b = octet '#' then some []
    else if !inQuery && b == octet '?' then (pathAndQuery? true r).map (b :: ·)
    else if (if inQuery then isQueryOctet b else isPathOctet b) then (pathAndQuery? inQuery r).map (b :: ·)
    else none

/-- The octets after a scheme, letters of either case taken as equal. -/
def afterScheme? (scheme : List Char) : List UInt8 → Option (List UInt8)
  | bs =>
    let front := bs.take scheme.length
    let lower (b : UInt8) : UInt8 := if 65 ≤ b && b ≤ 90 then b + 32 else b
    if front.map lower = scheme.map octet then some (bs.drop scheme.length) else none

/-- Whether a text is an address of a web page. -/
def isWebUrl (s : String) : Bool :=
  let bs := encode s
  if maxLength < bs.length then false
  else
    match (afterScheme? "http://".toList bs).or (afterScheme? "https://".toList bs) with
    | none => false
    | some rest =>
      match authority? rest with
      | none => false
      | some n => n != 0 && !(host (rest.take n)).isEmpty && (pathAndQuery? false (rest.drop n)).isSome

end Courier.Text.WebUrl
