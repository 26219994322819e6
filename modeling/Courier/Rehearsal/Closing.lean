import Courier.Rehearsal.Consuming
/-
A relay on the scene that is brought down.
-/

namespace Courier.Rehearsal

/-- A consumer that is waited for: when it ends, and how. -/
structure Ending where
  time : Nat
  report : ConsumerReport := {}
  breaks : Bool := false
  deriving Inhabited, Repr

namespace Closing

/-- Does what bringing down asks for. The consumer ends as told. -/
def answer (ending : Option Ending) : (q : ShutdownAsk) → Act Scene q.Answer
  | .signal => Act.modify fun s => { s with stopping := true }
  | .awaitConsumer limit =>
    match ending with
    | none => return ConsumerEnd.broken
    | some e =>
      if e.time > limit then do
        Act.sleep limit
        return ConsumerEnd.late
      else do
        Act.sleep e.time
        return if e.breaks then ConsumerEnd.broken else ConsumerEnd.finished e.report
  | .stopTargets limit => do
    let before := (← Act.get).stopped
    let thread ← Act.fork do
      let r ← Scene.withRegistry Registry.shutdownAll
      Act.modify fun s => { s with stopped := before ++ [r] }
    let _ ← Act.waitWithin limit fun s => before.length < s.stopped.length
    Act.rest
    let stopped := (← Act.get).stopped
    if before.length < stopped.length then return stopped.getLast?
    else
      Act.abort thread
      return none
  | .closeStore => Scene.note .close

/-- Brings the relay down. -/
def run (config : ShutdownConfig) (ending : Option Ending) : Act Scene ShutdownResult :=
  (Shutdown.execute config ending.isSome).run (answer ending)

end Closing
end Courier.Rehearsal
