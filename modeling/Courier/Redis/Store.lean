import Courier.Number.Binary64
import Courier.Redis.Reply
/-
The commands by which the queue works on a Redis server, and what they mean:
lists that grow and shrink at both ends, and sets whose members have scores, which
are doubles. A command is one step, and so is a block of commands.
-/

namespace Courier.Redis

inductive Side
  | left | right
  deriving DecidableEq, Repr

inductive Command
  /-- Puts a value in front of a list. -/
  | push (key value : String)
  /-- Moves a value from one end of a list to one end of another. -/
  | move (source target : String) (taken put : Side)
  /-- Removes the first value of a list that equals the given one. -/
  | remove (key value : String)
  | length (key : String)
  /-- Gives a member of a set a score. -/
  | score (key : String) (at_ : Int) (member : String)
  | unscore (key member : String)
  /-- The members with the lowest scores, none above a bound. -/
  | lowest (key : String) (bound : Int) (limit : Nat)
  | size (key : String)
  | authenticate (user : Option String) (password : String)
  | select (database : Int)
  deriving DecidableEq, Repr

def Side.name : Side → String
  | .left => "LEFT"
  | .right => "RIGHT"

/-- The words of a command as they are sent. -/
def Command.words : Command → List String
  | .push key value => ["LPUSH", key, value]
  | .move source target taken put => ["LMOVE", source, target, taken.name, put.name]
  | .remove key value => ["LREM", key, "1", value]
  | .length key => ["LLEN", key]
  | .score key at_ member => ["ZADD", key, Number.text at_, member]
  | .unscore key member => ["ZREM", key, member]
  | .lowest key bound limit => ["ZRANGEBYSCORE", key, "-inf", Number.text bound, "LIMIT", "0", toString limit]
  | .size key => ["ZCARD", key]
  | .authenticate user password => "AUTH" :: (user.toList ++ [password])
  | .select database => ["SELECT", Number.text database]

def Command.name (c : Command) : String := c.words.headD ""

/-- What is sent at once: a command, a block of commands that is one step, or
commands of which each is a step. -/
inductive Request
  | single (c : Command)
  | block (cs : List Command)
  | batch (cs : List Command)
  deriving DecidableEq, Repr

/-- The double nearest to a whole number of 64 bits. It is whole as well. -/
def asDouble (n : Int) : Int :=
  let size := (Number.Binary64.ofNat n.natAbs).toNatWithin (2 ^ 64)
  if n < 0 then -size else size

/-- What a server keeps: lists by their keys, the head first, and sets by theirs,
the lowest score first. -/
structure Store where
  lists : String → List String := fun _ => []
  sets : String → List (Int × String) := fun _ => []

instance : Inhabited Store := ⟨{}⟩

namespace Store

def setList (s : Store) (key : String) (values : List String) : Store :=
  { s with lists := fun k => if k = key then values else s.lists k }

def setSet (s : Store) (key : String) (members : List (Int × String)) : Store :=
  { s with sets := fun k => if k = key then members else s.sets k }

@[simp] theorem lists_setList (s : Store) (key k : String) (vs : List String) :
    (s.setList key vs).lists k = if k = key then vs else s.lists k := rfl

@[simp] theorem sets_setList (s : Store) (key : String) (vs : List String) :
    (s.setList key vs).sets = s.sets := rfl

@[simp] theorem sets_setSet (s : Store) (key k : String) (ms : List (Int × String)) :
    (s.setSet key ms).sets k = if k = key then ms else s.sets k := rfl

@[simp] theorem lists_setSet (s : Store) (key : String) (ms : List (Int × String)) :
    (s.setSet key ms).lists = s.lists := rfl

/-- A value added at one end of a list. -/
def added (side : Side) (value : String) (values : List String) : List String :=
  match side with
  | .left => value :: values
  | .right => values ++ [value]

/-- The value at one end of a list, and the rest of the list. -/
def taken? (side : Side) (values : List String) : Option (String × List String) :=
  match side with
  | .left => values.head?.map fun v => (v, values.tail)
  | .right => values.getLast?.map fun v => (v, values.dropLast)

/-- Members are in the order of their scores, and of their texts where scores are equal. -/
def before (a b : Int × String) : Bool := a.1 < b.1 || (a.1 == b.1 && a.2 < b.2)

def insertMember (m : Int × String) : List (Int × String) → List (Int × String)
  | [] => [m]
  | n :: r => if before m n then m :: n :: r else n :: insertMember m r

/-- What one command does, and its reply. -/
def step (s : Store) : Command → Store × Reply
  | .push key value =>
    let values := value :: s.lists key
    (s.setList key values, .int values.length)
  | .move source target taken put =>
    match taken? taken (s.lists source) with
    | none => (s, .nothing)
    | some (v, rest) =>
      let s := s.setList source rest
      (s.setList target (added put v (s.lists target)), .text v)
  | .remove key value =>
    let values := s.lists key
    (s.setList key (values.erase value), .int (if value ∈ values then 1 else 0))
  | .length key => (s, .int (s.lists key).length)
  | .score key at_ member =>
    let others := (s.sets key).filter (·.2 ≠ member)
    (s.setSet key (insertMember (asDouble at_, member) others), .int (if others.length = (s.sets key).length then 1 else 0))
  | .unscore key member =>
    let others := (s.sets key).filter (·.2 ≠ member)
    (s.setSet key others, .int ((s.sets key).length - others.length : Nat))
  | .lowest key bound limit =>
    (s, .list ((((s.sets key).takeWhile (·.1 ≤ asDouble bound)).take limit).map fun m => .text m.2))
  | .size key => (s, .int (s.sets key).length)
  | .authenticate _ _ => (s, .text "OK")
  | .select _ => (s, .text "OK")

/-- What commands do one after the other. -/
def steps (s : Store) : List Command → Store × List Reply
  | [] => (s, [])
  | c :: cs =>
    let (s, r) := s.step c
    let (s, rs) := s.steps cs
    (s, r :: rs)

/-- What a request does and its reply, if nothing comes between its commands. -/
def perform (s : Store) : Request → Store × Reply
  | .single c => s.step c
  | .block cs | .batch cs => ((s.steps cs).1, .list (s.steps cs).2)

end Store
end Courier.Redis
