import Courier.Rehearsal.Threads
/-
Scripts: how the calls to a part of the surroundings turn out, one after the
other. A call for which the script says nothing succeeds.
-/

namespace Courier.Rehearsal

/-- How one call turns out. -/
structure Cue (ε : Type) where
  /-- Milliseconds that it takes. -/
  delay : Nat := 0
  failure : Option ε := none
  /-- Whether it never ends. -/
  stalls : Bool := false
  deriving Inhabited, Repr

/-- The cues for the calls of each kind. -/
abbrev Script (κ ε : Type) := List (κ × List (Cue ε))

/-- The next cue for a kind of call. -/
def Script.next {κ ε : Type} [DecidableEq κ] (kind : κ) : Script κ ε → Cue ε × Script κ ε
  | [] => ({}, [])
  | (k, cues) :: r =>
    if k = kind then (cues.headD {}, (k, cues.tail) :: r)
    else
      let (c, r) := next kind r
      (c, (k, cues) :: r)

variable {σ ε α : Type}

/-- A call that turns out as its cue says; if it succeeds, `work` is done. -/
def Cue.play (c : Cue ε) (work : Act σ (Except ε α)) : Act σ (Except ε α) := do
  Act.sleep c.delay
  if c.stalls then Act.stall
  else
    match c.failure with
    | some e => return .error e
    | none => work

/-- A call that is given up after some milliseconds. -/
def Cue.playWithin (c : Cue ε) (limit : Nat) (work : Act σ (Except ε α)) : Act σ (Option (Except ε α)) := do
  if c.stalls || c.delay > limit then
    Act.sleep limit
    return none
  else return some (← c.play work)

end Courier.Rehearsal
