import Courier.Text.Quoted
/-
The statements by which tenants are looked up and counted in a PostgreSQL
database, and what can go wrong with one.
-/

namespace Courier.Postgres

/-- A counter of an application, by the column that holds it. -/
abbrev Column := String

inductive Statement
  /-- The user to whom a token belongs. -/
  | userOf (token : String)
  /-- The applications of a user, the oldest first. -/
  | applicationsOf (userKey : String)
  | application (token userKey : String)
  | targets
  | target (id : String)
  | increment (column : Column) (token : String)
  | saveInput (token dump : String)
  /-- A question that every database answers. -/
  | greet
  deriving DecidableEq, Repr

namespace Statement

/-- The columns that make up an application. -/
def applicationColumns : String :=
  "a.token, a.enable, a.name, a.icon_path, a.format, a.custom_format, a.encryption_type, a.encryption_recipients, "
    ++ "a.encrypt_title, a.encrypt_message, a.encrypt_attachment, a.target_id AS target, a.target_args"

def applicationTables : String := " FROM applications a JOIN users u ON u.id = a.user_id WHERE "

/-- The text of a statement, with numbers in place of the values. -/
def sql : Statement → String
  | userOf _ => "SELECT u.key, u.enable FROM users u JOIN applications a ON a.user_id = u.id WHERE a.token = $1"
  | applicationsOf _ => "SELECT " ++ applicationColumns ++ applicationTables ++ "u.key = $1 ORDER BY a.created_at, a.token"
  | application _ _ => "SELECT " ++ applicationColumns ++ applicationTables ++ "a.token = $1 AND u.key = $2"
  | targets => "SELECT id, enable, type, args FROM targets ORDER BY id"
  | target _ => "SELECT id, enable, type, args FROM targets WHERE id = $1"
  | increment column _ => "UPDATE applications SET " ++ column ++ " = " ++ column ++ " + 1 WHERE token = $1"
  | saveInput _ _ =>
    "UPDATE applications SET stat_received = stat_received + 1, latest_input = CASE WHEN store_latest_input THEN $2 "
      ++ "ELSE latest_input END WHERE token = $1"
  | greet => "SELECT 'ok'::text"

/-- The values of a statement. -/
def values : Statement → List String
  | userOf token => [token]
  | applicationsOf key => [key]
  | application token key => [token, key]
  | targets | greet => []
  | target id => [id]
  | increment _ token => [token]
  | saveInput token dump => [token, dump]

end Statement

/-- What stands in one place of a row. -/
inductive Cell
  | null
  | text (s : String)
  | flag (b : Bool)
  | texts (items : List (Option String))
  deriving DecidableEq, Repr

abbrev Row := List Cell

/-- What a database answers to a statement. -/
inductive Reply
  | rows (rows : List Row)
  /-- So many rows were changed. -/
  | changed (n : Nat)
  deriving DecidableEq, Repr

inductive Error
  /-- An error that the database reports. -/
  | reported (text : String)
  /-- A column, by its name or its number, holds what cannot be read. -/
  | column (shown : String) (reason : String)
  | noRow
  | closed
  /-- The address of the database is not usable. -/
  | address (reason : String)
  /-- What the address says of a setting is not known. -/
  | setting (reason : String)
  | noTls
  deriving DecidableEq, Repr

def noTlsReason : String :=
  "TLS upgrade required by connect options but SQLx was built without TLS support enabled"

def Error.message : Error → String
  | .reported t => "error returned from database: " ++ t
  | .column shown reason => "error occurred while decoding column " ++ shown ++ ": " ++ reason
  | .noRow => "no rows returned by a query that expected to return at least one row"
  | .closed => "attempted to acquire a connection on a closed pool"
  | .address reason => "error with configuration: " ++ reason
  | .setting reason => "error with configuration: error with configuration: " ++ reason
  | .noTls => "error occurred while attempting to establish a TLS connection: " ++ noTlsReason

/-- An error and what it was caused by, one after the other. -/
def Error.chain (e : Error) : List String :=
  e.message :: match e with
    | .reported t => [t]
    | .column _ reason => [reason]
    | .address reason => [reason]
    | .setting reason => ["error with configuration: " ++ reason, reason]
    | .noTls => [noTlsReason]
    | .noRow | .closed => []

/-- The rows of a reply; a change has none. -/
def Reply.allRows : Reply → List Row
  | .rows rs => rs
  | .changed _ => []

/-- How many rows a reply is about. -/
def Reply.count : Reply → Nat
  | .rows rs => rs.length
  | .changed n => n

end Courier.Postgres
