import Courier.Postgres.Row
import Courier.Procedure
import Courier.Text.ServerUrl
/-
A pool of connections to a PostgreSQL database: its address, which is shown
without the password, and what is asked of the database when the pool is made.
-/

namespace Courier.Postgres

open Courier.Text (ServerUrl)

/-- What is asked of a database. -/
inductive Call
  | connect
  | run (s : Statement)
  | close
  deriving DecidableEq, Repr

def Call.Answer : Call → Type
  | .connect => Except Error Unit
  | .run _ => Except Error Reply
  | .close => Unit

/-- A course of questions to a database. -/
abbrev Calls := Procedure Call Call.Answer

/-- Why there is no pool. -/
inductive PoolError
  | database (e : Error)
  /-- The database does not answer as it should. -/
  | silent (reason : String)
  deriving DecidableEq, Repr

def PoolError.message : PoolError → String
  | .database e => "SQLx error: " ++ e.message
  | .silent reason => "Connection unavailable: " ++ reason

/-- What a lack of a pool was caused by. -/
def PoolError.causes : PoolError → List String
  | .database e => e.chain
  | .silent _ => []

/-! ## Addresses -/

namespace Address

/-- The texts up to a piece that occurs in them, and after it. -/
def splitAt? (piece : List Char) : List Char → Option (List Char × List Char)
  | [] => if piece = [] then some ([], []) else none
  | c :: r =>
    if piece.isPrefixOf (c :: r) then some ([], (c :: r).drop piece.length)
    else (splitAt? piece r).map fun (before, after) => (c :: before, after)

/-- An address with the password, which stands between the first colon after the
scheme and the first at sign, replaced by stars. -/
def masked (url : String) : String :=
  match splitAt? [':', '/', '/'] url.toList with
  | none => url
  | some (scheme, rest) =>
    match splitAt? ['@'] rest with
    | none => url
    | some (who, place) =>
      match splitAt? [':'] who with
      | none => url
      | some (user, _) => String.ofList (scheme ++ "://".toList ++ user ++ ":***@".toList ++ place)

/-- Whether a connection must be, may be or is not secured. -/
def secureModes : List (String × Bool) :=
  [("disable", false), ("allow", false), ("prefer", false), ("require", true), ("verify-ca", true),
   ("verify-full", true)]

/-- Why a text is no whole number from 0 to a bound. -/
def numberFault? (bound : Nat) (s : String) : Option String :=
  let digits := match s.toList with
    | '+' :: r => r
    | r => r
  match Number.nat? digits with
  | some n => if n ≤ bound then none else some "number too large to fit in target type"
  | none => some (if s = "" then "cannot parse integer from empty string" else "invalid digit found in string")

/-- What one parameter of an address asks for: whether the connection must be secured, or nothing of that kind. -/
def parameter (key value : String) : Except Error (Option Bool) :=
  if key = "sslmode" ∨ key = "ssl-mode" then
    match secureModes.lookup (Text.lower value) with
    | some secure => .ok (some secure)
    | none =>
      .error (.setting ("unknown value " ++ Text.quote value ++ " for \x60ssl_mode\x60"))
  else
    let fault? := if key = "statement-cache-capacity" then numberFault? (2 ^ 64 - 1) value
      else if key = "port" then numberFault? (2 ^ 16 - 1) value
      else if key = "hostaddr" ∧ !Text.IpAddress.isAddress value.toList then some "invalid IP address syntax"
      else none
    match fault? with
    | some e => .error (.address e)
    | none => .ok none

/-- Whether an address can be used; tells whether the connection must be secured. -/
def secure (url : String) : Except Error Bool :=
  match ServerUrl.parse url with
  | .error e => .error (.address e.message)
  | .ok u => u.query.foldlM (fun secure (key, value) => (parameter key value).map (·.getD secure)) false

end Address

/-- Whether the database answers. -/
def ping : Calls (Except Error Unit) := do
  match ← Procedure.query (A := Call.Answer) (.run .greet) with
  | .error e => return .error e
  | .ok r =>
    match r.allRows with
    | [] => return .error .noRow
    | row :: _ => return (greetingRow.read row).map fun _ => ()

/-- Closes a pool. -/
def shut : Calls Unit := Procedure.query (A := Call.Answer) .close

/-- Makes a pool for an address, and sees that the database answers. -/
def establish (url : String) : Calls (Except PoolError Unit) := do
  match Address.secure url with
  | .error e => return .error (.database e)
  | .ok true => return .error (.database .noTls)
  | .ok false =>
    match ← Procedure.query (A := Call.Answer) .connect with
    | .error e => return .error (.database e)
    | .ok () =>
      match ← ping with
      | .error e => return .error (.silent ("health query failed: " ++ e.message))
      | .ok () => return .ok ()

end Courier.Postgres
