import Courier.Proofs.Queue.Crew
import Courier.Proofs.Shutdown
/-
The relay while it is brought down. The shutdown goes on beside a consumer with its threads,
and beside the deliveries that these make to the targets. It waits for the consumer, but not
for ever: one that does not stop in time is dropped with its threads, some time later. It
waits for the targets, but not for ever either: shutting them down is given up while one is
to answer, or while one is waited for.
-/

namespace Courier.Shutdown

open Procedure Registry

/-- Something that happens while the relay is brought down. -/
inductive Act
  /-- The shutdown asks for something. -/
  | ask (q : ShutdownAsk)
  | answered (q : ShutdownAsk) (a : q.Answer)
  /-- The shutdown has a target shut down. -/
  | down (id : String)
  /-- The shutdown is through with a target: it answered, or was shut down before. -/
  | past (id : String)
  /-- In the consumer or one of its threads. -/
  | consumer (a : Crew.Act)
  /-- A delivery on behalf of a thread comes to a target. -/
  | delivery (n : Nat) (id : String)
  /-- The consumer is gone, with its threads. -/
  | gone

namespace Act

/-- What the shutdown does itself. -/
def isOwn : Act → Bool
  | .ask _ | .answered _ _ | .down _ | .past _ => true
  | .consumer _ | .delivery _ _ | .gone => false

/-- What is done for a task from the queue. -/
def isTask : Act → Bool
  | .consumer _ | .delivery _ _ => true
  | .ask _ | .answered _ _ | .down _ | .past _ | .gone => false

def isClose : Act → Bool
  | .ask .closeStore => true
  | _ => false

end Act

/-- A relay that is brought down: what the shutdown has asked and has left, the consumer with its
threads, and the targets. -/
structure Station where
  rest : ShutdownWork ShutdownResult
  log : ShutdownLog := []
  /-- Whether the next question of the shutdown was asked. -/
  asking : Bool := false
  /-- What is left of shutting the targets down, while that is under way. -/
  targets : Option (RegistryWork (Except RegistryError Unit)) := none
  /-- The target that was asked to shut down and is to answer. -/
  busy : Option String := none
  crew : Option Crew := none
  floor : Floor := {}

namespace Station

/-- What may be answered to a question of the shutdown, and the targets afterwards. -/
inductive Answers (s : Station) : (q : ShutdownAsk) → q.Answer → Floor → Prop
  | told : Answers s .signal () s.floor
  | finished {limit : Nat} {k : Crew} (crew : s.crew = some k) (phase : k.consumer.phase = .finished) :
    Answers s (.awaitConsumer limit) (.finished k.consumer.report) s.floor
  | broken {limit : Nat} : Answers s (.awaitConsumer limit) .broken s.floor
  | late {limit : Nat} : Answers s (.awaitConsumer limit) .late s.floor
  | stopped {limit : Nat} {x : Except RegistryError Unit} (targets : s.targets = some (.result x)) :
    Answers s (.stopTargets limit) (some x) s.floor
  /-- The time is over while a target is waited for. -/
  | waiting {limit : Nat} {p : RegistryWork (Except RegistryError Unit)} (targets : s.targets = some p)
    (free : s.busy = none) : Answers s (.stopTargets limit) none s.floor
  /-- The time is over while a target is to answer. -/
  | unanswered {limit : Nat} {p : RegistryWork (Except RegistryError Unit)} {f : Floor} (targets : s.targets = some p)
    (busy : s.busy ≠ none) (given : GivenUp p s.floor f) : Answers s (.stopTargets limit) none f
  | closed : Answers s .closeStore () s.floor

/-- What is to be done about a question. -/
def workOf (r : Registry) : ShutdownAsk → Option (RegistryWork (Except RegistryError Unit))
  | .stopTargets _ => some r.shutdownAll
  | .signal | .awaitConsumer _ | .closeStore => none

/-- One step, after what happens in it. A target that is to answer is not free for deliveries. -/
inductive Step (r : Registry) (s : Station) : Act → Station → Prop
  | ask {q : ShutdownAsk} {next : q.Answer → ShutdownWork ShutdownResult} (rest : s.rest = .ask q next)
    (silent : s.asking = false) : Step r s (.ask q) { s with asking := true, targets := workOf r q }
  | answer {q : ShutdownAsk} {next : q.Answer → ShutdownWork ShutdownResult} {a : q.Answer} {f : Floor}
    (rest : s.rest = .ask q next) (asking : s.asking = true) (h : Answers s q a f) :
    Step r s (.answered q a)
      { s with
        rest := next a
        log := s.log ++ [⟨q, some a⟩]
        asking := false
        targets := none
        busy := none
        floor := f }
  | down {id : String} {next : SectionOutcome → RegistryWork (Except RegistryError Unit)}
    (targets : s.targets = some (.ask (.on id .stop) next)) (free : s.busy = none) (up : s.floor.states id ≠ .shutdown) :
    Step r s (.down id) { s with busy := some id }
  | past {id : String} {next : SectionOutcome → RegistryWork (Except RegistryError Unit)} {log : Log BackendAnswer}
    {o : SectionOutcome} {state : Lifecycle} (targets : s.targets = some (.ask (.on id .stop) next))
    (turn : s.busy = some id ∨ s.floor.states id = .shutdown)
    (h : (Section.stop.run (s.floor.states id)).Runs log (some (o, state))) :
    Step r s (.past id) { s with targets := some (next o), busy := none, floor := s.floor.after id log state }
  | consumer {k k' : Crew} {a : Crew.Act} (crew : s.crew = some k) (h : Crew.Step k a k') :
    Step r s (.consumer a) { s with crew := some k' }
  | delivery {k : Crew} {n : Nat} {id : String} {m : Message} {args : TargetArgs} {f : Floor} (crew : s.crew = some k)
    (working : n ∈ k.alive) (handling : k.handles n = true) (free : s.busy ≠ some id)
    (h : (∃ p, Goes (r.execute id m args) s.floor p f) ∨ GivenUp (r.execute id m args) s.floor f) :
    Step r s (.delivery n id) { s with floor := f }
  | gone : Step r s .gone { s with crew := none }

/-- What happens from one state to another, each act with the state that it happens in. -/
inductive Steps (r : Registry) : Station → List (Station × Act) → Station → Prop
  | nil {s : Station} : Steps r s [] s
  | cons {s s' s'' : Station} {act : Act} {l : List (Station × Act)} (hstep : Step r s act s') (rest : Steps r s' l s'') :
    Steps r s ((s, act) :: l) s''

/-- Where a shutdown begins: the targets stand as they may, and so does the consumer, if there is one. -/
structure Begins (c : ShutdownConfig) (config : ConsumerConfig) (hasConsumer : Bool) (s : Station) : Prop where
  rest : s.rest = execute c hasConsumer
  log : s.log = []
  silent : s.asking = false
  targets : s.targets = none
  busy : s.busy = none
  crew : s.crew.isSome = hasConsumer
  reachable : ∀ k, s.crew = some k → Crew.Reachable config k

/-- Whether the shutdown was told by the consumer that it has stopped. -/
def Reported (s : Station) (report : ConsumerReport) : Prop :=
  ∃ limit, ⟨.awaitConsumer limit, some (.finished report)⟩ ∈ s.log

/-- Whether no thread is at work. -/
def Quiet (s : Station) : Prop := ∀ k, s.crew = some k → k.alive = []

end Station

open Station

/-! ## Where a shutdown stands -/

/-- How it went with the consumer. -/
inductive Left (c : ShutdownConfig) : (hasConsumer : Bool) → ShutdownLog → Option ConsumerReport → Prop
  | alone : Left c false [⟨.signal, some ()⟩] none
  | waited (e : ConsumerEnd) : Left c true [⟨.signal, some ()⟩, ⟨.awaitConsumer c.consumerLimit, some e⟩] e.report?

/-- Where a shutdown stands, with what was asked and answered. -/
inductive Stands (c : ShutdownConfig) : (hasConsumer : Bool) → ShutdownLog → ShutdownWork ShutdownResult → Prop
  | fresh {hasConsumer : Bool} : Stands c hasConsumer [] (execute c hasConsumer)
  | waiting : Stands c true [⟨.signal, some ()⟩] (.ask (.awaitConsumer c.consumerLimit) fun e => finish c e.report?)
  | stopping {hasConsumer : Bool} {l : ShutdownLog} {consumer : Option ConsumerReport}
    (h : Left c hasConsumer l consumer) : Stands c hasConsumer l (finish c consumer)
  | closing {hasConsumer : Bool} {l : ShutdownLog} {consumer : Option ConsumerReport} (h : Left c hasConsumer l consumer)
    (t : Option (Except RegistryError Unit)) : Stands c hasConsumer (l ++ [⟨.stopTargets c.targetsLimit, some t⟩])
      (.ask .closeStore fun _ => .result (result consumer (stopped t)))
  | closed {hasConsumer : Bool} {l : ShutdownLog} {consumer : Option ConsumerReport} (h : Left c hasConsumer l consumer)
    (t : Option (Except RegistryError Unit)) :
    Stands c hasConsumer (l ++ [⟨.stopTargets c.targetsLimit, some t⟩, ⟨.closeStore, some ()⟩])
      (.result (result consumer (stopped t)))

section

variable {c : ShutdownConfig} {hasConsumer : Bool} {l : ShutdownLog} {rest : ShutdownWork ShutdownResult}

theorem stands_of_finish {consumer : Option ConsumerReport} {l' : ShutdownLog} (h : Left c hasConsumer l consumer)
    (hcomes : Comes (finish c consumer) l' rest) : Stands c hasConsumer (l ++ l') rest := by
  rcases hcomes.of_ask with ⟨rfl, rfl⟩ | ⟨t, l₁, rfl, h₁⟩
  · rw [List.append_nil]
    exact .stopping h
  rcases h₁.of_ask with ⟨rfl, rfl⟩ | ⟨_, l₂, rfl, h₂⟩
  · exact .closing h t
  obtain ⟨rfl, rfl⟩ := h₂.of_result
  exact .closed h t

theorem stands_of_comes (h : Comes (execute c hasConsumer) l rest) : Stands c hasConsumer l rest := by
  rcases h.of_ask with ⟨rfl, rfl⟩ | ⟨_, l₁, rfl, h₁⟩
  · exact .fresh
  cases hasConsumer with
  | false => exact stands_of_finish .alone h₁
  | true =>
    rcases h₁.of_ask with ⟨rfl, rfl⟩ | ⟨e, l₂, rfl, h₂⟩
    · exact .waiting
    · exact stands_of_finish (.waited e) h₂

end

end Courier.Shutdown
