import Courier.Queue
import Courier.Target.Backend
/-
What the relay counts, and the text in which it shows the counters: families in
the order of their names, each with a line on what it is, its kind, and one
line for every combination of labels that was met.
-/

namespace Courier

/-- Something that is counted. -/
inductive Count
  | request (route outcome : String)
  | enqueued
  | task (outcome : String)
  | queueAction (action : String)
  | executed (kind : TargetKind)
  | targetError (kind : TargetKind)
  | reconnect
  deriving DecidableEq, Repr

/-- Counters, and how deep the queue was when it was last looked at. -/
structure Metrics where
  counts : List (Count × Nat) := []
  depth : Option QueueStats := none
  /-- Whether counters without labels are shown before anything was counted. -/
  showsZeros : Bool := false
  deriving Repr, Inhabited

namespace Metrics

/-- How often something was counted. -/
def count (m : Metrics) (c : Count) : Nat := ((m.counts.find? fun p => p.1 = c).map (·.2)).getD 0

/-- One more of something. -/
def increment (m : Metrics) (c : Count) : Metrics :=
  if m.counts.any fun p => p.1 = c then
    { m with counts := m.counts.map fun p => if p.1 = c then (p.1, p.2 + 1) else p }
  else { m with counts := m.counts ++ [(c, 1)] }

def setDepth (m : Metrics) (s : QueueStats) : Metrics := { m with depth := some s }

/-- One line: labels in the order of their names, and a value. -/
structure Sample where
  labels : List (String × String)
  value : Nat

/-- Counters of one name. -/
structure Family where
  name : String
  help : String
  type : String
  samples : List Sample

/-- The labels of what is counted. -/
def labels : Count → List (String × String)
  | .request route outcome => [("outcome", outcome), ("route", route)]
  | .enqueued | .reconnect => []
  | .task outcome => [("outcome", outcome)]
  | .queueAction action => [("action", action)]
  | .executed kind | .targetError kind => [("kind", kind.name)]

/-- Samples in the order of their labels' values. -/
def sortSamples (samples : List Sample) : List Sample :=
  samples.mergeSort fun a b => !(decide (b.labels.map (·.2) < a.labels.map (·.2)))

/-- The samples of everything counted that is of one sort. -/
def samplesOf (m : Metrics) (is : Count → Bool) : List Sample :=
  sortSamples ((m.counts.filter fun p => is p.1).map fun p => ⟨labels p.1, p.2⟩)

/-- The sample of a counter without labels, which is there once something was counted. -/
def plainSample (m : Metrics) (c : Count) : List Sample :=
  if m.showsZeros || m.count c != 0 then [⟨[], m.count c⟩] else []

def depthSamples (s : QueueStats) : List Sample :=
  [⟨[("list", "dead")], s.dead⟩, ⟨[("list", "inflight")], s.inflight⟩, ⟨[("list", "pending")], s.pending⟩,
   ⟨[("list", "scheduled")], s.scheduled⟩]

/-- All families. Of the time that deliveries take, only how many there were is kept. -/
def families (m : Metrics) : List Family :=
  [⟨"push_relay_ingress_requests_total", "Total ingestion requests", "counter",
    m.samplesOf fun | .request _ _ => true | _ => false⟩,
   ⟨"push_relay_messages_enqueued_total", "Total messages accepted onto the task queue", "counter",
    m.plainSample .enqueued⟩,
   ⟨"push_relay_queue_actions_total", "Total queue actions taken after task handling", "counter",
    m.samplesOf fun | .queueAction _ => true | _ => false⟩,
   ⟨"push_relay_queue_depth", "Number of tasks per queue list", "gauge", m.depth.elim [] depthSamples⟩,
   ⟨"push_relay_target_errors_total", "Total backend execute failures", "counter",
    m.samplesOf fun | .targetError _ => true | _ => false⟩,
   ⟨"push_relay_target_execute_duration_seconds", "Backend execute latency in seconds", "histogram",
    m.samplesOf fun | .executed _ => true | _ => false⟩,
   ⟨"push_relay_tasks_total", "Total tasks handled by the dispatch worker", "counter",
    m.samplesOf fun | .task _ => true | _ => false⟩,
   ⟨"push_relay_xmpp_reconnects_total", "Total XMPP reconnects performed during execute", "counter",
    m.plainSample .reconnect⟩]

/-- The name of a sample with its labels. -/
def Sample.title (name : String) (s : Sample) : String :=
  if s.labels.isEmpty then name
  else
    name ++ "\x7b" ++ String.intercalate "," (s.labels.map fun l => l.1 ++ "=\"" ++ l.2 ++ "\"") ++ "\x7d"

/-- The lines of a family; none if it has no samples. -/
def Family.lines (f : Family) : List String :=
  if f.samples.isEmpty then []
  else
    let name := if f.type = "histogram" then f.name ++ "_count" else f.name
    ["# HELP " ++ f.name ++ " " ++ f.help, "# TYPE " ++ f.name ++ " " ++ f.type] ++
      f.samples.map fun s => s.title name ++ " " ++ toString s.value

/-- All lines that show the counters. -/
def lines (m : Metrics) : List String := (m.families.map Family.lines).flatten

/-- The lines of what was counted at least once. -/
def nonzeroLines (m : Metrics) : List String :=
  (m.families.map fun f => { f with samples := f.samples.filter fun s => s.value ≠ 0 }.lines.filter
    fun l => !l.startsWith "#").flatten

/-- The counters as text. -/
def text (m : Metrics) : String := String.join (m.lines.map (· ++ "\n"))

end Metrics
end Courier
