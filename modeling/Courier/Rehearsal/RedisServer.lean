import Courier.Queue.Redis
import Courier.Redis.Address
/-
A Redis server that plays by a script: it keeps a store, writes down the
commands it gets, and answers some of them as the script says and not as the
store would. Times are counted from its own clock: its clients' clocks stand at
the epoch, so a time they name is how far it is from now.
-/

namespace Courier.Rehearsal

open Redis (Command Request Reply Store)

structure RedisServer where
  store : Store := {}
  /-- The time on its clock in milliseconds. -/
  time : Nat := 0
  /-- What commands are answered with, by their names; `none` for what the store answers. -/
  script : List (String × List (Option Reply)) := []
  /-- The keys that were ever in use. -/
  keys : List String := []
  /-- The words of the commands it got since they were taken last. -/
  heard : List (List String) := []

namespace RedisServer

/-- The words of a command, with times as they are counted by a client. -/
def wordsOf : Command → List String
  | .score key at_ member => ["ZADD", key, "<now+" ++ Number.text at_ ++ ">", member]
  | .lowest key _ limit => ["ZRANGEBYSCORE", key, "-inf", "<now>", "LIMIT", "0", toString limit]
  | c => c.words

/-- A command with times as the server counts them. -/
def byServerTime (time : Nat) : Command → Command
  | .score key at_ member => .score key (at_ + time) member
  | .lowest key bound limit => .lowest key (bound + time) limit
  | c => c

/-- The keys that a command may bring into use. -/
def keysOf : Command → List String
  | .push key _ | .score key _ _ => [key]
  | .move _ target _ _ => [target]
  | _ => []

def hear (words : List String) (s : RedisServer) : RedisServer := { s with heard := s.heard ++ [words] }

/-- The next scripted answer to a command of a name. -/
def nextCue (name : String) (s : RedisServer) : Option Reply × RedisServer :=
  match s.script.lookup name with
  | some (r :: rest) =>
    (r, { s with script := s.script.map fun e => if e.1 = name then (name, rest) else e })
  | _ => (none, s)

/-- Runs a command that was heard before. -/
def run (c : Command) (s : RedisServer) : Reply × RedisServer :=
  match s.nextCue c.name with
  | (some r, s) => (r, s)
  | (none, s) =>
    let (store, r) := s.store.step (byServerTime s.time c)
    (r, { s with store, keys := s.keys ++ keysOf c })

def runAll : List Command → RedisServer → List Reply × RedisServer
  | [], s => ([], s)
  | c :: cs, s =>
    let (r, s) := s.run c
    let (rs, s) := runAll cs s
    (r :: rs, s)

/-- Answers a request. -/
def respond (q : Request) (s : RedisServer) : Reply × RedisServer :=
  match q with
  | .single c => (s.hear (wordsOf c)).run c
  | .batch cs =>
    let (rs, s) := (cs.foldl (fun s c => s.hear (wordsOf c)) s).runAll cs
    (.list rs, s)
  | .block cs =>
    let s := (cs.foldl (fun s c => s.hear (wordsOf c)) (s.hear ["MULTI"])).hear ["EXEC"]
    match s.nextCue "MULTI" with
    | (some r, s) =>
      let (rs, s) := s.runAll cs
      (.list (r :: rs ++ [.failed "ERR EXEC without MULTI"]), s)
    | (none, s) =>
      match s.nextCue "EXEC" with
      | (some r, s) => (r, s)
      | (none, s) =>
        let (rs, s) := s.runAll cs
        (.list rs, s)

/-- The texts of a list, after which more are put. -/
def seed (key : String) (values : List String) (s : RedisServer) : RedisServer :=
  { s with store := s.store.setList key (s.store.lists key ++ values), keys := s.keys ++ [key] }

/-- Members of a set with their scores. -/
def seedSet (key : String) (members : List (Int × String)) (s : RedisServer) : RedisServer :=
  { s with store := members.foldl (fun st m => (st.step (.score key m.1 m.2)).1) s.store, keys := s.keys ++ [key] }

def advance (millis : Nat) (s : RedisServer) : RedisServer := { s with time := s.time + millis }

/-- The keys in order, each once. -/
def sortedKeys (s : RedisServer) : List String := (s.keys.mergeSort (· ≤ ·)).eraseDups

/-- The lists that hold something, by their keys. -/
def fullLists (s : RedisServer) : List (String × List String) :=
  s.sortedKeys.filterMap fun k => if (s.store.lists k).isEmpty then none else some (k, s.store.lists k)

/-- The sets that hold something, by their keys. -/
def fullSets (s : RedisServer) : List (String × List (Int × String)) :=
  s.sortedKeys.filterMap fun k => if (s.store.sets k).isEmpty then none else some (k, s.store.sets k)

/-- The commands heard since they were taken last. -/
def takeHeard : StateM RedisServer (List (List String)) := modifyGet fun s => (s.heard, { s with heard := [] })

/-- How many answers the script still holds. -/
def cues (s : RedisServer) : Nat := s.script.foldl (fun n e => n + e.2.length) 0

/-- An operation on the queue under some keys, with no other client at work. -/
def ask (keys : RedisKeys) (c : QueueCall) : StateM RedisServer c.Answer := do
  let s ← get
  let limit := 4 * (RedisQueue.requestLimit keys s.store + s.cues + 1)
  let a ← RedisQueue.Stage.runUpTo keys (pure Calendar.Moment.epoch) (fun q => modifyGet (respond q)) limit
    (.start c)
  return a.getD (.error (.unavailable "no end"))

/-- The commands by which a client begins. -/
def greet (a : Redis.Address) : StateM RedisServer Unit :=
  a.greeting.forM fun c => do let _ ← modifyGet (respond (.single c))

end RedisServer
end Courier.Rehearsal
