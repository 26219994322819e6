import Courier.Metrics
import Courier.Procedure
/-
The registry of targets. Every target is brought up, used and brought down one
step at a time: each step has the target to itself, so for others it is one
step. Targets are gone through in the order of their identifiers.
-/

namespace Courier

inductive RegistryError
  | unsupported (id kind : String)
  | unknownTarget (id : String)
  | notRunning (id : String) (state : Lifecycle)
  | backend (id : String) (e : BackendError)
  | shutdown (failures : List (String × BackendError))
  deriving DecidableEq, Repr

def RegistryError.message : RegistryError → String
  | .unsupported id kind => "Target " ++ id ++ ": " ++ TargetKind.unsupported kind
  | .unknownTarget id => "Unknown target: " ++ id
  | .notRunning id state => "Target " ++ id ++ " is not running (state: " ++ state.name ++ ")"
  | .backend id e => "Target " ++ id ++ " failed: " ++ e.message
  | .shutdown failures =>
    toString failures.length ++ " target(s) failed to shut down: " ++
      String.intercalate "; " (failures.map fun f => f.1 ++ ": " ++ f.2.message)

/-- What an error was caused by. -/
def RegistryError.causes : RegistryError → List String
  | .unsupported _ kind => [TargetKind.unsupported kind]
  | .backend _ e => e.chain
  | .unknownTarget _ | .notRunning _ _ | .shutdown _ => []

/-- What a target is asked to do. -/
inductive BackendCall
  /-- Check the configuration. -/
  | load
  /-- Take up what is kept for long. -/
  | run
  | execute (m : Message) (args : TargetArgs)
  /-- Give up what is held. -/
  | shutdown

/-- What a target answers. -/
abbrev BackendAnswer : BackendCall → Type := fun _ => Except BackendError Unit

/-- A step that has one target to itself. -/
inductive Section
  | load
  /-- Starts a target that is loaded; one that fails to start is shut down. -/
  | start
  /-- Takes back a start. -/
  | revert
  | execute (m : Message) (args : TargetArgs)
  /-- Shuts a target down unless that was done. -/
  | stop

/-- How a step ends. -/
inductive SectionOutcome
  /-- The target is in a state in which this is not done. -/
  | refused (state : Lifecycle)
  | answered (r : Except BackendError Unit)

/-- What a step asks of a target in a state, and the state it leaves. -/
def Section.run (state : Lifecycle) : Section → Procedure BackendCall BackendAnswer (SectionOutcome × Lifecycle)
  | .load =>
    .ask .load fun
      | .ok () => .result (.answered (.ok ()), .loaded)
      | .error e => .result (.answered (.error e), state)
  | .start =>
    if state ≠ .loaded then .result (.refused state, state)
    else
      .ask .run fun
        | .ok () => .result (.answered (.ok ()), .running)
        | .error e => .ask .shutdown fun _ => .result (.answered (.error e), .shutdown)
  | .revert => .ask .shutdown fun _ => .result (.answered (.ok ()), .shutdown)
  | .execute m args =>
    if state ≠ .running then .result (.refused state, state)
    else .ask (.execute m args) fun r => .result (.answered r, state)
  | .stop =>
    if state = .shutdown then .result (.answered (.ok ()), state)
    else .ask .shutdown fun r => .result (.answered r, .shutdown)

/-- What goes on in a registry: a step on a target, or something to count. -/
inductive RegistryStep
  | on (id : String) (s : Section)
  | count (c : Count)

def RegistryStep.Answer : RegistryStep → Type
  | .on _ _ => SectionOutcome
  | .count _ => Unit

abbrev RegistryWork := Procedure RegistryStep RegistryStep.Answer

/-- The targets of a registry with their kinds, in the order of their identifiers. -/
structure Registry where
  targets : List (String × TargetKind) := []
  deriving Repr, Inhabited

namespace Registry

/-- Values under keys in the order of the keys; a later one takes the place of an earlier one. -/
def insert {β : Type} (key : String) (b : β) : List (String × β) → List (String × β)
  | [] => [(key, b)]
  | (k, c) :: r =>
    if key = k then (key, b) :: r else if key < k then (key, b) :: (k, c) :: r else (k, c) :: insert key b r

/-- A registry of targets given in any order. -/
def ofList {β : Type} (l : List (String × β)) : List (String × β) := l.foldl (fun r p => insert p.1 p.2 r) []

/-- The kinds of targets, all of which must be known. -/
def kinds (ts : List Target) : Except RegistryError (List (String × TargetKind)) :=
  ts.mapM fun t =>
    match TargetKind.ofName? t.kind with
    | some k => .ok (t.id, k)
    | none => .error (.unsupported t.id t.kind)

def ids (r : Registry) : List String := r.targets.map (·.1)

/-- A step on a target as work. -/
def on (id : String) (s : Section) : RegistryWork SectionOutcome := Procedure.query (RegistryStep.on id s)

def count (c : Count) : RegistryWork Unit := Procedure.query (RegistryStep.count c)

/-- Loads targets up to the first that fails. -/
def loadEach : List String → RegistryWork (Except RegistryError Unit)
  | [] => return .ok ()
  | id :: r => do
    match ← on id .load with
    | .answered (.error e) => return .error (.backend id e)
    | _ => loadEach r

def loadAll (r : Registry) : RegistryWork (Except RegistryError Unit) := loadEach r.ids

/-- Takes back the starts of targets, the last one first. -/
def rollBack : List String → RegistryWork Unit
  | [] => return ()
  | id :: r => do
    let _ ← on id .revert
    rollBack r

/-- Starts targets one after the other; `started` are those before, the last one first. -/
def startEach (started : List String) : List String → RegistryWork (Except RegistryError Unit)
  | [] => return .ok ()
  | id :: r => do
    match ← on id .start with
    | .refused state =>
      rollBack started
      return .error (.notRunning id state)
    | .answered (.error e) =>
      rollBack started
      return .error (.backend id e)
    | .answered (.ok ()) => startEach (id :: started) r

/-- Starts all targets or none. -/
def runAll (r : Registry) : RegistryWork (Except RegistryError Unit) := startEach [] r.ids

/-- Has a target deliver a message. -/
def execute (r : Registry) (id : String) (m : Message) (args : TargetArgs) :
    RegistryWork (Except RegistryError Unit) :=
  match r.targets.find? fun t => t.1 == id with
  | none => return .error (.unknownTarget id)
  | some (_, kind) => do
    match ← on id (.execute m args) with
    | .refused state => return .error (.notRunning id state)
    | .answered (.ok ()) => do
      count (.executed kind)
      return .ok ()
    | .answered (.error e) => do
      count (.executed kind)
      count (.targetError kind)
      return .error (.backend id e)

/-- Shuts targets down, noting the failures, the last one first. -/
def stopEach (failures : List (String × BackendError)) : List String → RegistryWork (Except RegistryError Unit)
  | [] => return if failures.isEmpty then .ok () else .error (.shutdown failures.reverse)
  | id :: r => do
    match ← on id .stop with
    | .answered (.error e) => stopEach ((id, e) :: failures) r
    | _ => stopEach failures r

/-- Shuts all targets down, whatever fails. -/
def shutdownAll (r : Registry) : RegistryWork (Except RegistryError Unit) := stopEach [] r.ids

end Registry
end Courier
