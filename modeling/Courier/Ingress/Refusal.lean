import Courier.Message.Validation
import Courier.Queue
import Courier.Tenant.Resolver
/-
Why a request is refused, and what the client is told: a status, and a text
that in production does not give away what is wrong inside.
-/

namespace Courier

open Json (Value)

inductive Refusal
  | config (text : String)
  | validation (e : ValidationError)
  | badRequest (text : String)
  | notFound (text : String)
  | queue (e : QueueError)
  | unavailable (text : String)
  | internal (text : String)
  deriving Repr

namespace Refusal

/-- A lookup that failed: what is missing was not found, and all else is the store's failure. -/
def ofResolve : ResolveError → Refusal
  | .repository e => .unavailable e.message
  | e => .notFound e.message

def message : Refusal → String
  | .config text => "Configuration error: " ++ text
  | .validation e => "Validation error: " ++ e.message
  | .badRequest text => "Bad request: " ++ text
  | .notFound text => text
  | .queue e => "Queue error: " ++ e.message
  | .unavailable text => "Service unavailable: " ++ text
  | .internal text => "Internal error: " ++ text

/-- The status of the response. -/
def status : Refusal → Nat
  | .validation _ | .badRequest _ => 400
  | .notFound _ => 404
  | .unavailable _ => 503
  | .config _ | .queue _ | .internal _ => 500

/-- What the client is told. -/
def clientText (production : Bool) : Refusal → String
  | .config text => if production then "Configuration error" else text
  | .validation e => e.message
  | .badRequest text | .notFound text => text
  | .queue e => if production then "Unable to queue message" else e.message
  | .unavailable text => if production then "Service temporarily unavailable" else text
  | .internal text => if production then "Internal server error" else text

/-- The names of the run mode in which little is given away. -/
def productionModes : List String := ["production", "prod"]

/-- Whether a run mode is production. -/
def isProduction (runMode : Option String) : Bool := runMode.any productionModes.contains

end Refusal

namespace Envelope

/-- What is answered to a message that was taken in. -/
def accepted (request : String) : Value := .object [("status", .int 1), ("request", .text request)]

/-- What is answered to a message that was refused. -/
def rejected (error request : String) : Value :=
  .object [("status", .int 0), ("error", .text error), ("request", .text request)]

end Envelope
end Courier
