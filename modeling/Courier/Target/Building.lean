import Courier.Target.Apprise
import Courier.Target.Xmpp
/-
Targets are built from their records, one for each identifier. A record of an
unknown kind is refused, and then nothing is built.
-/

namespace Courier

/-- A target that is built. -/
inductive TargetBackend
  | xmpp (b : XmppBackend)
  | apprise (b : AppriseBackend)
  deriving Inhabited

namespace TargetBackend

def kind : TargetBackend → TargetKind
  | .xmpp _ => .xmpp
  | .apprise _ => .apprise

/-- A new target of a kind, as a record describes it. -/
def ofRecord (t : Target) : TargetKind → TargetBackend
  | .xmpp => .xmpp { args := t.args }
  | .apprise => .apprise { args := t.args }

end TargetBackend

/-- A target with the state that it is in. -/
structure TargetSlot where
  state : Lifecycle := .uninitialized
  backend : TargetBackend
  deriving Inhabited

def TargetSlot.kind (s : TargetSlot) : TargetKind := s.backend.kind

/-- The targets that records describe, in the order of their identifiers. -/
def Registry.build (ts : List Target) : Except RegistryError (List (String × TargetSlot)) := do
  let kinds ← Registry.kinds ts
  return Registry.ofList ((ts.zip kinds).map fun (t, id, kind) => (id, { backend := .ofRecord t kind }))

end Courier
