import Courier.Queue
import Courier.Repository
import Courier.Target.Xmpp
/-
The journal of a rehearsal: what was asked of the surroundings, in order. Each
note has a written form, a list that starts with what was asked.
-/

namespace Courier.Rehearsal

open Json (Value)

inductive Note
  | increment (token : String) (s : Stat)
  | save (token dump : String)
  | close
  | target (id : String) (c : BackendCall)
  | chat (c : ChatCall)
  /-- A call to the queue that it was able to take, at a time. -/
  | queue (time : Nat) (c : QueueCall)
  | dequeueFailed (time : Nat)
  | started (time : Nat) (t : Task)
  | ended (time : Nat) (t : Task)

/-- What a note is about. -/
inductive Topic
  | store
  | targets
  | queue
  | handler
  deriving DecidableEq, Repr

namespace Note

def topic : Note → Topic
  | .increment _ _ | .save _ _ | .close => .store
  | .target _ _ | .chat _ => .targets
  | .queue _ _ | .dequeueFailed _ => .queue
  | .started _ _ | .ended _ _ => .handler

def backendCall : BackendCall → List Value
  | .load => [.text "load"]
  | .run => [.text "run"]
  | .execute m args => [.text "execute", m.toValue, .object args]
  | .shutdown => [.text "shutdown"]

def chatCall : ChatCall → List Value
  | .connect s => [.text "connect", .text s.host, .int s.port, .text s.jid, .text s.password]
  | .ping _ => [.text "ping"]
  | .send _ to_ body => [.text "send", .text to_, .text body]
  | .close _ => [.text "close"]
  | .reconnecting => [.text "reconnecting"]

def queueCall : QueueCall → List Value
  | .enqueue t => [.text "enqueue", .text t.kind, .text t.payload, .int t.attempts]
  | .dequeue => [.text "dequeue"]
  | .ack d => [.text "ack", .text d.task.payload]
  | .retry d wait => [.text "retry", .text d.task.payload, .int wait]
  | .deadLetter d reason => [.text "dead_letter", .text d.task.payload, .text reason]
  | .recover => [.text "recover"]
  | .stats => [.text "stats"]

/-- The written form of a note. -/
def toValue : Note → Value
  | .increment token s => .array [.text "increment_stat", .text token, .text s.name, .text s.column]
  | .save token dump => .array [.text "save_input", .text token, .text dump]
  | .close => .array [.text "close"]
  | .target id c => .array (.text id :: backendCall c)
  | .chat c => .array (chatCall c)
  | .queue time c => .array (.int time :: queueCall c)
  | .dequeueFailed time => .array [.int time, .text "dequeue failed"]
  | .started time t => .array [.int time, .text "start", .text t.payload, .int t.attempts]
  | .ended time t => .array [.int time, .text "end", .text t.payload]

end Note

/-- The notes about some topics, in their written form. -/
def written (topics : List Topic) (notes : List Note) : List Value :=
  (notes.filter fun n => topics.contains n.topic).map Note.toValue

end Courier.Rehearsal
