import Courier.Proofs.Balance.Requests
import Courier.Proofs.Balance.Tasks
/-
The counters balance. Four parts of the relay count for themselves: the worker how a task
ended, the consumer what became of it, and taking in messages what was put on the queue
and what was accepted. When no task is being processed, the first two agree, and when no
request is being answered, so do the other two.
-/

namespace Courier.Balance

open Procedure

/-- Whether something is counted when messages are taken in. -/
def isIngress : Count → Bool
  | .request _ _ | .enqueued => true
  | .task _ | .queueAction _ | .executed _ | .targetError _ | .reconnect => false

/-- How many requests the counters show as accepted, by all routes together. -/
def accepted (m : Metrics) : Nat :=
  ([Route.pushover, .submit, .application].map fun route => m.count (.request route.name "accepted")).sum

/-- What requests count together is fair if each of them is. -/
theorem fair_flatMap {ls : List Service.ServiceLog} (h : ∀ l ∈ ls, Service.Fair l) :
    (ls.flatMap Service.counts).count .enqueued = Service.accepted (ls.flatMap Service.counts) := by
  induction ls with
  | nil => rfl
  | cons l ls ih =>
    have hfair : (Service.counts l).count .enqueued = Service.accepted (Service.counts l) := h l List.mem_cons_self
    rw [List.flatMap_cons, List.count_append, Service.accepted_append, hfair,
      ih fun l' hl' => h l' (List.mem_cons_of_mem _ hl')]

/-- In whatever order requests are counted, and whatever else is counted in between. -/
theorem requests_balance {v : Service} {ls : List Service.ServiceLog} {cs : List Count}
    (hanswered : ∀ l ∈ ls, ∃ r p, (v.handle r).Runs l (some p)) (horder : (cs.filter isIngress).Perm (ls.flatMap Service.counts)) :
    (cs.foldl Metrics.increment {}).count .enqueued = accepted (cs.foldl Metrics.increment {}) := by
  have hcount (c : Count) (hc : isIngress c = true) : cs.count c = (ls.flatMap Service.counts).count c := by
    rw [← horder.count_eq, List.count_filter hc]
  have hfair := fair_flatMap fun l hl => by
    obtain ⟨r, p, hruns⟩ := hanswered l hl
    exact Service.fair_handle r l p hruns
  have henqueued := hcount .enqueued rfl
  have haccepted (route : Route) := hcount (.request route.name "accepted") rfl
  simp only [accepted, Metrics.count_increments, Metrics.count_new, Nat.zero_add, henqueued, haccepted]
  exact hfair

/-- **The counters balance**, for tasks whenever none is being processed, and for requests whenever all are answered. -/
theorem counters_balance :
    (∀ w config s, Depot.Reachable w config s → s.crew.consumer.jobs = [] → Depot.Balanced s) ∧
      ∀ (v : Service) (ls : List Service.ServiceLog) (cs : List Count),
        (∀ l ∈ ls, ∃ r p, (v.handle r).Runs l (some p)) → (cs.filter isIngress).Perm (ls.flatMap Service.counts) →
          (cs.foldl Metrics.increment {}).count .enqueued = accepted (cs.foldl Metrics.increment {}) :=
  ⟨fun _ _ _ h idle => h.kept.balanced idle, fun _ _ _ hanswered horder => requests_balance hanswered horder⟩

/-! ## One task and one request -/

def single : ConsumerConfig := { concurrency := 1 }

def sampleDelivery : Delivery := { task := Worker.sampleTask, receipt := "r" }

theorem sample_reachable : ∃ s, Depot.Reachable Worker.sample single s ∧ s.crew.consumer.jobs = [] ∧
    s.metrics.count (.task "delivered") = 1 := by
  let draw : Number.Binary64 → Number.Binary64 → Number.Binary64 := fun a _ => a
  have run : Depot.Reachable Worker.sample single _ := .start
  replace run := run.step (.loop (e := .recovered) (.loop draw trivial rfl))
  replace run := run.step (.loop (e := .place) (.loop draw trivial rfl))
  replace run := run.step (.take (d := sampleDelivery) (.take draw rfl))
  replace run := run.step (.ask (n := 0) (.ask (by decide) rfl rfl rfl))
  -- the worker looks the application and the target up, delivers, and counts
  replace run := run.step (.work (n := 0) (q := .store (.application "u" "a")) (some (.ok { token := "a", target := "t" }))
    (by decide) rfl rfl rfl)
  replace run := run.step (.work (n := 0) (q := .store (.target "t")) (some (.ok { id := "t", kind := "xmpp" }))
    (by decide) rfl rfl rfl)
  replace run := run.step (.work (n := 0) (q := .deliver "t" _ _) (.ok () : Except RegistryError Unit) (by decide) rfl rfl rfl)
  replace run := run.step (.work (n := 0) (q := .store (.increment "a" .sent)) (some (.ok ())) (by decide) rfl rfl rfl)
  replace run := run.step (.work (n := 0) (q := .record .delivered) () (by decide) rfl rfl rfl)
  replace run := run.step (.handled (n := 0) (.handled (.ok ()) rfl rfl rfl rfl) rfl rfl)
  replace run := run.step (.ask (n := 0) (.ask (by decide) rfl rfl rfl))
  replace run := run.step (.count (n := 0) (c := .queueAction "ack")
    (.answer (q := .count (.queueAction "ack")) () (by decide) rfl rfl rfl rfl))
  replace run := run.step (.ask (n := 0) (.ask (by decide) rfl rfl rfl))
  replace run := run.step (.settle (n := 0) (c := .ack sampleDelivery) (a := (.ok () : Except QueueError Unit))
    (.answer _ (by decide) rfl rfl rfl rfl))
  replace run := run.step (.finish (n := 0) (.finish draw rfl rfl rfl))
  exact ⟨_, run, rfl, rfl⟩

theorem sample_counters_balance : (∃ s, Depot.Reachable Worker.sample single s ∧ s.crew.consumer.jobs = [] ∧
    s.metrics.count (.task "delivered") = 1 ∧ Depot.Balanced s) ∧
    ∃ l p, (Service.sample.handle Service.sampleRequest).Runs l (some p) ∧
      ((Service.counts l).foldl Metrics.increment {}).count .enqueued = 1 ∧
      accepted ((Service.counts l).foldl Metrics.increment {}) = 1 := by
  refine ⟨?_, ?_⟩
  · obtain ⟨s, run, hidle, hdelivered⟩ := sample_reachable
    exact ⟨s, run, hidle, hdelivered, counters_balance.1 _ _ s run hidle⟩
  · have hruns := runs_logWith Service.sampleAnswer (Service.sample.handle Service.sampleRequest)
    generalize hl : (Service.sample.handle Service.sampleRequest).logWith Service.sampleAnswer = l at hruns
    have hcounts : Service.counts l = [.enqueued, .request "pushover" "accepted"] := by
      rw [← hl]
      decide +kernel
    have hbalance := counters_balance.2 Service.sample [l] (Service.counts l)
      (fun l' hl' => List.mem_singleton.1 hl' ▸ ⟨_, _, hruns⟩) (by rw [List.flatMap_singleton, hcounts]; exact .refl _)
    refine ⟨l, _, hruns, ?_, ?_⟩
    · rw [hcounts]
      rfl
    · rw [← hbalance, hcounts]
      rfl

end Courier.Balance
