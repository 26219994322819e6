import Courier.Configuration.Tree
import Courier.Json.Failure
/-
Why settings cannot be loaded. A scalar that cannot be taken as wanted is
reported with its path and with the source that says it.
-/

namespace Courier.Configuration

open Courier.Number (Binary64)

/-- Doubles in settings are written without an exponent. -/
def plainStyle : Binary64.Style := ⟨-400, 400, false, ""⟩

/-- What stands where a scalar of another kind is wanted. -/
inductive Misfit
  | flag (b : Bool)
  | whole (n : Int)
  | natural (n : Nat)
  | real (x : Binary64)
  | text (s : String)
  | nothing | sequence | map
  deriving Repr

namespace Misfit

def phrase : Misfit → String
  | flag b => "boolean `" ++ toString b ++ "`"
  | whole n => "64-bit integer `" ++ Number.text n ++ "`"
  | natural n => "64-bit unsigned integer `" ++ Number.text n ++ "`"
  | real x => "floating point `" ++ x.render plainStyle ++ "`"
  | text s => "string " ++ Text.quote s
  | nothing => "unit value"
  | sequence => "sequence"
  | map => "map"

def ofTree : Tree → Misfit
  | .nothing _ => nothing
  | .flag b _ => flag b
  | .whole n _ => whole n
  | .real x _ => real x
  | .text s _ => text s
  | .list _ _ => sequence
  | .table _ _ => map

end Misfit

inductive Failure
  /-- A scalar of the wrong kind, at a path, in a source. -/
  | misfit (found : Misfit) (wanted : String) (path : Option String) (origin : Origin)
  /-- The text of a file is malformed. -/
  | malformed (reason : String) (file : String)
  /-- A file that is needed is not there, or not of a known format. -/
  | missingFile (name : String)
  | unknownFormat (name : String)
  | other (reason : String)
  deriving Repr

namespace Failure

def message : Failure → String
  | misfit found wanted path origin =>
    "invalid type: " ++ found.phrase ++ ", expected " ++ wanted
      ++ (path.map fun p => " for key `" ++ p ++ "`").getD ""
      ++ (origin.map fun o => " in " ++ o).getD ""
  | malformed reason file => reason ++ " in " ++ file
  | missingFile name => "configuration file " ++ Text.quote name ++ " not found"
  | unknownFormat name => "configuration file " ++ Text.quote name ++ " is not of a registered file format"
  | other reason => reason

/-- A failure below a member of a table. -/
def underKey (key : String) : Failure → Failure
  | misfit found wanted path origin =>
    misfit found wanted (some (match path with
      | none | some "" => key
      | some p => if p.startsWith "[" then key ++ p else key ++ "." ++ p)) origin
  | f => f

/-- A failure below an item of a list. -/
def underIndex (i : Nat) : Failure → Failure
  | misfit found wanted path origin => misfit found wanted (some ("[" ++ toString i ++ "]" ++ path.getD "")) origin
  | f => f

end Failure
end Courier.Configuration
