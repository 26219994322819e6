import Courier.Ingress
import Courier.Text.Percent
/-
Requests and responses, and which route a request takes.
-/

namespace Courier

structure HttpRequest where
  method : String
  path : String
  query : Option String := none
  headers : Headers := []
  body : List UInt8 := []

structure HttpResponse where
  status : Nat
  headers : Headers := []
  body : String := ""
  deriving DecidableEq, Repr, Inhabited

namespace Headers

/-- The first value of a header. -/
def get? (hs : Headers) (name : String) : Option (List UInt8) := (hs.find? fun h => h.1 == name).map (·.2)

/-- Adds a value; all values of one name stand together. -/
def append (hs : Headers) (name : String) (value : List UInt8) : Headers :=
  match hs with
  | [] => [(name, value)]
  | h :: r =>
    if h.1 == name && !(r.any fun k => k.1 == name) then h :: (name, value) :: r else h :: append r name value

/-- Sets a header to one value. -/
def set (hs : Headers) (name : String) (value : List UInt8) : Headers :=
  if hs.any fun h => h.1 == name then
    let rec replace : Headers → Headers
      | [] => []
      | h :: r => if h.1 == name then (name, value) :: r.filter fun k => k.1 != name else h :: replace r
    replace hs
  else hs ++ [(name, value)]

/-- A value as text, if all of it can be shown. -/
def shown? (value : List UInt8) : Option String :=
  if value.all fun b => (32 ≤ b && b < 127) || b == 9 then Text.decode? value else none

def contentType : String := "content-type"

/-- The methods that could have been used instead. -/
def allow : String := "allow"

/-- The identifier of a request, in the request and in its response. -/
def requestId : String := "x-request-id"

end Headers

namespace HttpResponse

def json (status : Nat) (v : Json.Value) : HttpResponse :=
  { status, headers := [(Headers.contentType, Text.encode "application/json")], body := v.compact }

def plain (status : Nat) (text : String) : HttpResponse :=
  { status, headers := [(Headers.contentType, Text.encode "text/plain; charset=utf-8")], body := text }

/-- A header as text. -/
def shown? (p : HttpResponse) (name : String) : Option String := (Headers.get? p.headers name).bind Headers.shown?

def contentType (p : HttpResponse) : Option String := p.shown? Headers.contentType

def allow (p : HttpResponse) : Option String := p.shown? Headers.allow

def requestId (p : HttpResponse) : Option String := p.shown? Headers.requestId

end HttpResponse

/-- A request to an address: a path, and a query after a question mark. A fragment is not part of a request. -/
def HttpRequest.ofAddress (method address : String) (headers : Headers) (body : List UInt8) : HttpRequest :=
  let cs := address.toList.takeWhile (· ≠ '#')
  let path := cs.takeWhile (· ≠ '?')
  { method, path := String.ofList path, headers, body,
    query := if path.length < cs.length then some (String.ofList (cs.drop (path.length + 1))) else none }

/-- What a path leads to. -/
inductive Endpoint
  | live
  | ready
  | metrics
  /-- Messages, with the token in the path as it is written. -/
  | messages (route : Route) (token : Option String)
  deriving DecidableEq, Repr

namespace Endpoint

def ofPath? (path : String) : Option Endpoint :=
  match Text.pieces '/' path with
  | ["", "_internal", "health", "live"] => some .live
  | ["", "_internal", "health", "ready"] => some .ready
  | ["", "metrics"] => some .metrics
  | ["", "1", "messages.json"] => some (.messages .pushover none)
  | ["", "_internal", "submit", token] => if token.isEmpty then none else some (.messages .submit (some token))
  | ["", token] => if token.isEmpty then none else some (.messages .application (some token))
  | _ => none

/-- The methods of an endpoint. -/
def allow : Endpoint → String
  | .live | .ready | .metrics => "GET,HEAD"
  | .messages _ _ => "POST"

def allows (e : Endpoint) (method : String) : Bool := (Text.pieces ',' e.allow).contains method

end Endpoint
end Courier
