import Courier.Number.Decimal
import Courier.Text.Ascii
import Courier.Text.IpAddress
import Courier.Text.Percent
import Courier.Text.Quoted
/-
Addresses of servers: a scheme, who connects, a host and a port, a path and
parameters.
-/

namespace Courier.Text

/-- What is wrong with the address of a server. -/
inductive ServerUrlError
  | noScheme | emptyHost | badPort | badHost | badIpv6
  deriving DecidableEq, Repr

def ServerUrlError.message : ServerUrlError → String
  | .noScheme => "relative URL without a base"
  | .emptyHost => "empty host"
  | .badPort => "invalid port number"
  | .badHost => "invalid domain character"
  | .badIpv6 => "invalid IPv6 address"

structure ServerUrl where
  scheme : String
  /-- Who connects, and the password, as written. -/
  user : String := ""
  password : Option String := none
  host : Option String := none
  port : Option Nat := none
  path : String := ""
  /-- The parameters in plain text. -/
  query : List (String × String) := []
  deriving DecidableEq, Repr

namespace ServerUrl

/-- A text without the blanks and controls at its ends, and without tabs and line ends. -/
def cleaned (s : String) : List Char :=
  let edge (c : Char) : Bool := c ≤ ' '
  ((s.toList.dropWhile edge).reverse.dropWhile edge).reverse.filter fun c => c ≠ '\t' ∧ c ≠ '\n' ∧ c ≠ '\r'

/-- The scheme in lower case, and what follows the colon. -/
def scheme? (cs : List Char) : Option (String × List Char) :=
  let isPart (c : Char) : Bool := c.isAlphanum || c == '+' || c == '-' || c == '.'
  match cs, cs.dropWhile isPart with
  | c :: _, ':' :: r => if c.isAlpha then some (lower (String.ofList (cs.takeWhile isPart)), r) else none
  | _, _ => none

/-- What stands before and after the last occurrence of a character; all of it after, if there is none. -/
def splitLast (x : Char) (cs : List Char) : Option (List Char) × List Char :=
  if cs.contains x then
    let after := (cs.reverse.takeWhile (· ≠ x)).reverse
    (some (cs.take (cs.length - after.length - 1)), after)
  else (none, cs)

/-- What stands before and after the first occurrence of a character. -/
def splitFirst (x : Char) (cs : List Char) : List Char × Option (List Char) :=
  match cs.dropWhile (· ≠ x) with
  | [] => (cs, none)
  | _ :: r => (cs.takeWhile (· ≠ x), some r)

def isBarredInHost (c : Char) : Bool := c ≤ ' ' || "#/:<>?@[\\]^|".toList.contains c

/-- The schemes whose addresses must have a host. -/
def hostedSchemes : List String := ["http", "https", "ws", "wss", "ftp"]

/-- A host, which may stand in brackets, and a port after a colon. -/
def hostAndPort (cs : List Char) : Except ServerUrlError (List Char × Option Nat) := do
  let (host, rest) ← match cs with
    | '[' :: r =>
      match splitFirst ']' r with
      | (inner, some rest) =>
        if IpAddress.isSixth inner then pure ('[' :: inner ++ [']'], rest)
        else throw .badIpv6
      | (_, none) => throw .badIpv6
    | cs =>
      let host := cs.takeWhile (· ≠ ':')
      if host.any isBarredInHost then throw .badHost else pure (host, cs.dropWhile (· ≠ ':'))
  match rest with
  | [] => return (host, none)
  | ':' :: digits =>
    if host = [] then throw .emptyHost
    else if digits = [] then return (host, none)
    else match Number.nat? digits with
      | some p => if p ≤ 65535 then return (host, some p) else throw .badPort
      | none => throw .badPort
  | _ => throw .badPort

/-- A parameter's text: plus signs stand for blanks. -/
def parameterText (cs : List Char) : String :=
  decodeLossy (percentDecode (encode (String.ofList (cs.map fun c => if c = '+' then ' ' else c))))

def parameters (cs : List Char) : List (String × String) :=
  (pieces '&' (String.ofList cs)).filterMap fun p =>
    if p = "" then none
    else
      let (key, value) := splitFirst '=' p.toList
      some (parameterText key, parameterText (value.getD []))

/-- Reads an address. -/
def parse (s : String) : Except ServerUrlError ServerUrl := do
  let some (scheme, cs) := scheme? (cleaned s) | throw .noScheme
  let (cs, _) := splitFirst '#' cs
  let (cs, query) := splitFirst '?' cs
  let query := parameters (query.getD [])
  match cs with
  | '/' :: '/' :: r =>
    let (who, place) := splitLast '@' (r.takeWhile (· ≠ '/'))
    let (host, port) ← hostAndPort place
    if host = [] ∧ (who.any (· ≠ []) ∨ hostedSchemes.contains scheme) then throw .emptyHost
    let (user, password) := splitFirst ':' (who.getD [])
    return {
      scheme, query, port
      user := String.ofList user
      password := (password.filter (· ≠ [])).map String.ofList
      host := if host = [] then none else some (String.ofList host)
      path := String.ofList (r.dropWhile (· ≠ '/')) }
  | cs => return { scheme, query, path := String.ofList cs }

end ServerUrl
end Courier.Text
