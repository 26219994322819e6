import Courier.Queue.Redis
import Courier.Redis.Address
import Courier.Settings
/-
The kinds of queues, and which one settings ask for.
-/

namespace Courier

inductive QueueBackend
  | memory
  | redis (address : Redis.Address) (keys : RedisKeys)
  deriving Repr

namespace QueueBackend

def name : QueueBackend → String
  | memory => MemoryQueue.backendName
  | redis _ _ => RedisQueue.backendName

/-- The kind that settings name, in any case of its letters. -/
def ofSettings (s : Settings) : Except QueueError QueueBackend :=
  let kind := Text.lower s.queue.backend
  if kind = MemoryQueue.backendName then .ok memory
  else if kind = RedisQueue.backendName then
    match Redis.Address.ofUrl s.redis.url with
    | .ok address => .ok (redis address (.startingWith s.queue.keyStart))
    | .error e => .error (.redis e)
  else .error (.unavailable ("Unknown queue backend: " ++ kind))

end QueueBackend
end Courier
