import Courier.Metrics
import Courier.Procedure
import Courier.Queue.Consumer
/-
The processing of one delivery: its task is handled, what becomes of the task is
counted, and the queue is asked to settle it. What the queue answers changes nothing:
a delivery that could not be settled stays in flight.
-/

namespace Courier

open Number (Binary64)

/-- What processing a delivery asks for. -/
inductive ProcessAsk
  /-- Has a task handled; there is no answer if the handler breaks down. -/
  | handle (t : Task)
  | count (c : Count)
  | settle (c : QueueCall)
  deriving DecidableEq, Repr

def ProcessAsk.Answer : ProcessAsk → Type
  | .handle _ => Except TaskFailure Unit
  | .count _ => Unit
  | .settle c => c.Answer

abbrev Processing := Procedure ProcessAsk ProcessAsk.Answer

/-- Has the task of a delivery handled, and settles it. -/
def ConsumerConfig.process (c : ConsumerConfig) (draw : Binary64 → Binary64 → Binary64) (d : Delivery) : Processing Unit :=
  .ask (.handle d.task) fun result =>
    let s := c.settlement draw d.task result
    .ask (.count (.queueAction s.action)) fun _ => .ask (.settle (s.call d)) fun _ => .result ()

end Courier
