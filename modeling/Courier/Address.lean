import Courier.Address.Characters
import Courier.Text.Ascii
/-
Addresses of a chat network: a node, a domain and a resource, of which only the
domain must be there. What stands before the first at sign is the node, what
stands after the first slash the resource.
-/

namespace Courier

/-- What is wrong with an address. -/
inductive AddressError
  | nodeEmpty | domainEmpty | resourceEmpty
  | nodeTooLong | domainTooLong | resourceTooLong
  | badNode | badDomain | badResource
  deriving DecidableEq, Repr

def AddressError.message : AddressError → String
  | .nodeEmpty => "nodepart empty despite the presence of a @"
  | .domainEmpty => "no domain found in this JID"
  | .resourceEmpty => "resource empty despite the presence of a /"
  | .nodeTooLong => "localpart longer than 1023 bytes"
  | .domainTooLong => "domain longer than 1023 bytes"
  | .resourceTooLong => "resource longer than 1023 bytes"
  | .badNode => "localpart doesn’t pass nodeprep validation"
  | .badDomain => "domain doesn’t pass nameprep validation"
  | .badResource => "resource doesn’t pass resourceprep validation"

/-- An address in its normal form. -/
structure Address where
  node : Option String
  domain : String
  resource : Option String
  deriving DecidableEq, Repr

namespace Address

/-- The most octets of a part. -/
def maxOctets : Nat := 1023

/-- Whether text of both directions is mixed: a part with a character from
right to left starts and ends with one and has none from left to right. -/
def mixesDirections (cs : List Char) : Bool :=
  cs.any isRightToLeft &&
    (cs.any isLeftToRight || !(cs.head?.any isRightToLeft) || !(cs.getLast?.any isRightToLeft))

/-- A part after its profile: ignored characters left out, capitals folded if
`folds`, no character that is barred. -/
def prepare (folds : Bool) (bars : Char → Bool) (bad empty tooLong : AddressError) (cs : List Char) :
    Except AddressError String :=
  let cs := cs.filter fun c => !isIgnored c
  let cs := if folds then cs.map Text.lowerLetter else cs
  if cs.any bars || mixesDirections cs then .error bad
  else
    let s := String.ofList cs
    if s.isEmpty then .error empty else if maxOctets < s.utf8ByteSize then .error tooLong else .ok s

def prepareNode := prepare true isBarredInNode .badNode .nodeEmpty .nodeTooLong

def prepareDomain := prepare true isBarred .badDomain .domainEmpty .domainTooLong

def prepareResource := prepare false isBarredInResource .badResource .resourceEmpty .resourceTooLong

/-- What stands before and after the first place of a character. -/
def splitAt? (mark : Char) (cs : List Char) : Option (List Char × List Char) :=
  let before := cs.takeWhile (· ≠ mark)
  match cs.drop before.length with
  | _ :: after => some (before, after)
  | [] => none

/-- Reads an address. -/
def parse (s : String) : Except AddressError Address := do
  let (bare, resource) := match splitAt? '/' s.toList with
    | some (b, r) => (b, some r)
    | none => (s.toList, none)
  let (node, domain) := match splitAt? '@' bare with
    | some (n, d) => (some n, d)
    | none => (none, bare)
  let node ← match node with
    | some n => do .ok (some (← prepareNode n))
    | none => .ok none
  let domain ← prepareDomain domain
  let resource ← match resource with
    | some r => do .ok (some (← prepareResource r))
    | none => .ok none
  .ok ⟨node, domain, resource⟩

/-- An address as text. -/
def text (a : Address) : String :=
  a.node.elim "" (· ++ "@") ++ a.domain ++ a.resource.elim "" ("/" ++ ·)

end Address
end Courier
