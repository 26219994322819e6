import Courier.Redis.Store
import Courier.Text.ServerUrl
/-
The address of a Redis server: who connects, the host and the port, and the
number of the database.
-/

namespace Courier.Redis

structure Address where
  host : String
  port : Nat := 6379
  user : Option String := none
  password : Option String := none
  database : Int := 0
  /-- Whether server and client speak the third version of their language. -/
  third : Bool := false
  deriving DecidableEq, Repr

namespace Address

/-- What is written with percent signs, if it is made of characters. -/
def plain (reason : String) (s : String) : Except Error String :=
  match Text.percentDecode? s with
  | some s => .ok s
  | none => .error (.address reason)

/-- The database that a path names; without a name the first one. -/
def databaseOf (path : String) : Except Error Int :=
  let isSlash (c : Char) : Bool := c == '/'
  match ((path.toList.dropWhile isSlash).reverse.dropWhile isSlash).reverse with
  | [] => .ok 0
  | cs =>
    match Number.intWithin? (-2 ^ 63) (2 ^ 63 - 1) cs with
    | some n => .ok n
    | none => .error (.address "Invalid database number")

/-- Whether a parameter asks for the third version; without one it is the second. -/
def versionOf : Option String → Except Error Bool
  | none | some "2" | some "resp2" => .ok false
  | some "3" | some "resp3" => .ok true
  | some name => .error (.version name)

/-- Reads an address. -/
def ofUrl (s : String) : Except Error Address :=
  match Text.ServerUrl.parse s with
  | .error _ => .error (.address "Redis URL did not parse")
  | .ok u => do
    if u.scheme ≠ "redis" ∧ u.scheme ≠ "rediss" then throw (.address "Redis URL did not parse")
    let some host := u.host | throw (.address "Missing hostname")
    if u.scheme = "rediss" then throw (.address "can't connect with TLS, the feature is not enabled")
    let database ← databaseOf u.path
    let user ← if u.user = "" then pure none else (plain "Username is not valid UTF-8 string" u.user).map some
    let password ← u.password.mapM (plain "Password is not valid UTF-8 string")
    let third ← versionOf (u.query.reverse.lookup "protocol")
    return { host, port := u.port.getD 6379, user, password, database, third }

/-- The commands by which a connection begins, once the version is agreed on;
in the third version the client has proved by then who it is. -/
def greeting (a : Address) : List Command :=
  (if a.third then [] else (a.password.map fun pw => .authenticate a.user pw).toList)
    ++ (if a.database = 0 then [] else [.select a.database])

end Address
end Courier.Redis
