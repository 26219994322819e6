import Courier.Tenant
import Courier.Text.Duration
/-
What all kinds of targets have in common: why a delivery fails, which kinds
there are, in which state a target is, and how arguments are read.
-/

namespace Courier

open Json (Value Object)

/-- Why a target cannot do what it is asked. -/
inductive BackendError
  /-- Arguments of the target or of the application are unusable. -/
  | config (text : String)
  /-- There is no session, or it was lost. -/
  | connection (text : String)
  /-- The delivery was refused. -/
  | delivery (text : String)
  | timeout (limit : Duration)
  | io (text : String)
  /-- The target was not brought into the state this needs. -/
  | notReady (step : String)
  deriving DecidableEq, Repr

namespace BackendError

def message : BackendError → String
  | .config t => "Invalid configuration: " ++ t
  | .connection t => "Connection failed: " ++ t
  | .delivery t => "Delivery failed: " ++ t
  | .timeout d => "Timed out after " ++ d.text
  | .io t => "I/O error: " ++ t
  | .notReady t => "Backend not ready: " ++ t

/-- An error and what it was caused by. -/
def chain (e : BackendError) : List String :=
  e.message :: match e with
    | .io t => [t]
    | _ => []

/-- Whether a failure points at a broken session rather than at the message. -/
def isConnectionLoss : BackendError → Bool
  | .connection _ | .timeout _ | .io _ => true
  | .config _ | .delivery _ | .notReady _ => false

end BackendError

/-- The kinds of targets. -/
inductive TargetKind
  | xmpp
  | apprise
  deriving DecidableEq, Repr, Inhabited

namespace TargetKind

def name : TargetKind → String
  | .xmpp => "xmpp"
  | .apprise => "apprise"

def ofName? (name : String) : Option TargetKind :=
  if name = "xmpp" then some .xmpp else if name = "apprise" then some .apprise else none

/-- What is said of a name of no kind. -/
def unsupported (name : String) : String := "Unsupported target type: " ++ name

end TargetKind

/-- The states of a target. -/
inductive Lifecycle
  | uninitialized
  | loaded
  | running
  | shutdown
  deriving DecidableEq, Repr, Inhabited

def Lifecycle.name : Lifecycle → String
  | .uninitialized => "uninitialized"
  | .loaded => "loaded"
  | .running => "running"
  | .shutdown => "shutdown"

namespace TargetArgs

/-- An argument as text. Null counts as missing; other values than texts stand in their written form. -/
def text? (args : TargetArgs) (key : String) : Option String :=
  match Object.get? args key with
  | none | some .null => none
  | some (.text s) => some s
  | some v => some v.compact

/-- An argument that must be there and not empty. -/
def required (args : TargetArgs) (key : String) : Except BackendError String :=
  match text? args key with
  | some s => if s.isEmpty then .error (.config ("missing argument: " ++ key)) else .ok s
  | none => .error (.config ("missing argument: " ++ key))

/-- A truth value given as such or in words. -/
def flag (args : TargetArgs) (key : String) (default : Bool) : Except BackendError Bool :=
  let invalid (text : String) : Except BackendError Bool :=
    .error (.config ("invalid boolean for " ++ key ++ ": " ++ text))
  match Object.get? args key with
  | none | some .null => .ok default
  | some (.bool b) => .ok b
  | some (.text s) =>
    let t := Text.lower s
    if t = "true" ∨ t = "1" ∨ t = "yes" then .ok true
    else if t = "false" ∨ t = "0" ∨ t = "no" then .ok false
    else invalid s
  | some v => invalid v.compact

end TargetArgs
end Courier
