import Mathlib.Algebra.Ring.Nat
import Courier.Proofs.Metrics
import Courier.Proofs.Service
/-
What taking in messages counts. A request that is answered counts one message on the queue
if it is counted as accepted, and none if not; a request that is broken off may count one
without the other.
-/

namespace Courier

open Procedure

/-- What is counted by a question, if it is one to count. -/
def IngressAsk.count? : IngressAsk → Option Count
  | .count c => some c
  | .store _ | .enqueue _ | .stamp => none

def ServiceAsk.count? : ServiceAsk → Option Count
  | .ingress q => q.count?
  | .health | .stats | .depth _ | .metrics | .newIdentifier => none

namespace Ingress

/-- All that was counted, in its order. -/
def counts (l : IngressLog) : List Count := l.filterMap (·.1.count?)

variable {g : Ingress} {s : Submission} {l : IngressLog}

theorem counts_append (l₁ l₂ : IngressLog) : counts (l₁ ++ l₂) = counts l₁ ++ counts l₂ := List.filterMap_append

theorem counts_look {α : Type} {p : Lookups α} {r : Option α} (h : (look p).Runs l r) : counts l = [] := by
  obtain ⟨l', -, rfl⟩ := runs_look h
  refine List.filterMap_eq_nil_iff.2 fun x hx => ?_
  obtain ⟨y, -, rfl⟩ := List.mem_map.1 hx
  rfl

theorem counts_enqueue {m : Message} {r : Option (Except Refusal Unit)} (h : (enqueue m).Runs l r) : counts l = [] := by
  rcases runs_ask h with ⟨rfl, -⟩ | ⟨stamp, l₁, rfl, h₁⟩
  · rfl
  rcases runs_ask h₁ with ⟨rfl, -⟩ | ⟨x, l₂, rfl, h₂⟩
  · rfl
  · cases x with
    | ok _ | error _ =>
      obtain ⟨rfl, -⟩ := runs_result h₂
      rfl

/-- A message is counted when it was taken in. -/
def taken (r : Except Refusal Unit) : List Count := if r.isOk then [.enqueued] else []

theorem counts_takeIn {token : String} {u : User} {m : Message} {pretty : String} {r : Except Refusal Unit}
    (h : (g.takeIn s token u m pretty).Runs l (some r)) : counts l = taken r := by
  rcases runs_bind h with ⟨-, hr⟩ | ⟨_, l₁, l₂, rfl, h₁, h₂⟩
  · cases hr
  rw [counts_append, counts_look h₁, List.nil_append]
  split at h₂
  · obtain ⟨rfl, hr⟩ := runs_result h₂
    cases hr
    rfl
  rcases runs_bind h₂ with ⟨-, hr⟩ | ⟨x, l₃, l₄, rfl, h₃, h₄⟩
  · cases hr
  rw [counts_append, counts_enqueue h₃, List.nil_append]
  cases x with
  | error e =>
    obtain ⟨rfl, hr⟩ := runs_result h₄
    cases hr
    rfl
  | ok _ =>
    rcases runs_bind h₄ with ⟨-, hr⟩ | ⟨_, l₅, l₆, rfl, h₅, h₆⟩
    · cases hr
    obtain rfl := runs_query h₅
    rcases runs_bind h₆ with ⟨-, hr⟩ | ⟨_, l₇, l₈, rfl, h₇, h₈⟩
    · cases hr
    obtain ⟨rfl, hr⟩ := runs_result h₈
    cases hr
    rw [counts_append, counts_append, counts_look h₇]
    rfl

theorem counts_process {r : Except Refusal Unit} (h : (g.process s).Runs l (some r)) : counts l = taken r := by
  unfold process at h
  split at h
  · obtain ⟨rfl, hr⟩ := runs_result h
    cases hr
    rfl
  next sent _ =>
  dsimp only at h
  split at h
  · obtain ⟨rfl, hr⟩ := runs_result h
    cases hr
    rfl
  rcases runs_bind h with ⟨-, hr⟩ | ⟨x, l₁, l₂, rfl, h₁, h₂⟩
  · cases hr
  rw [counts_append, counts_look h₁, List.nil_append]
  cases x with
  | error e =>
    obtain ⟨rfl, hr⟩ := runs_result h₂
    cases hr
    rfl
  | ok found =>
    cases sent with
    | some m => exact counts_takeIn h₂
    | none =>
      dsimp only at h₂
      split at h₂
      · obtain ⟨rfl, hr⟩ := runs_result h₂
        cases hr
        rfl
      · exact counts_takeIn h₂

/-- A submission that is answered is counted once, after its message. -/
theorem counts_respond {r : Except Refusal Unit} (h : (g.respond s).Runs l (some r)) :
    counts l = taken r ++ [.request s.route.name (if r.isOk then "accepted" else "rejected")] := by
  rcases runs_bind h with ⟨-, hr⟩ | ⟨x, l₁, l₂, rfl, h₁, h₂⟩
  · cases hr
  rcases runs_bind h₂ with ⟨-, hr⟩ | ⟨_, l₃, l₄, rfl, h₃, h₄⟩
  · cases hr
  obtain rfl := runs_query h₃
  obtain ⟨rfl, hr⟩ := runs_result h₄
  cases hr
  rw [counts_append, counts_process h₁]
  rfl

end Ingress

namespace Service

/-- All that was counted, in its order. -/
def counts (l : ServiceLog) : List Count := l.filterMap (·.1.count?)

/-- How many requests were counted as accepted, by all routes together. -/
def accepted (cs : List Count) : Nat :=
  ([Route.pushover, .submit, .application].map fun route => cs.count (.request route.name "accepted")).sum

/-- Whether each message on the queue was counted with the request that it came by. -/
def Fair (l : ServiceLog) : Prop := (counts l).count .enqueued = accepted (counts l)

variable {s : Service}

theorem accepted_append (cs cs' : List Count) : accepted (cs ++ cs') = accepted cs + accepted cs' := by
  simp only [accepted, List.count_append, List.map_cons, List.map_nil, List.sum_cons, List.sum_nil]
  omega

theorem additive_fair : Log.Additive Fair where
  nil := rfl
  append {l l'} h h' := by
    simp only [Fair, counts, List.filterMap_append, List.count_append, accepted_append] at h h' ⊢
    rw [h, h']

theorem fair_of_uncounted {α : Type} {p : ServiceWork α} (h : p.Only (·.count? = none)) : p.Ends Fair := by
  intro l a hruns
  have hnone : counts l = [] := List.filterMap_eq_nil_iff.2 (h.runs hruns)
  rw [Fair, hnone]
  rfl

theorem fair_messages (r : HttpRequest) (route : Route) (token : Option String) :
    (s.messages r route token).Ends Fair := by
  unfold Service.messages
  split
  · exact additive_fair.ends_result _
  split
  · exact additive_fair.ends_result _
  refine additive_fair.ends_bind (fun l y hruns => ?_) fun y => ?_
  · obtain ⟨l', hwork, rfl⟩ := runs_through (f := ServiceAsk.ingress) hruns
    have hcounts : counts (Log.translate (B := ServiceAsk.Answer) ServiceAsk.ingress l') = Ingress.counts l' := by
      simp only [counts, Log.translate, List.filterMap_map]
      rfl
    rw [Fair, hcounts, Ingress.counts_respond hwork]
    cases y <;> cases route <;> rfl
  · cases y <;> exact additive_fair.ends_result _

theorem fair_endpoint (r : HttpRequest) (e : Endpoint) : (s.endpoint r e).Ends Fair := by
  cases e with
  | live => exact additive_fair.ends_result _
  | ready => exact fair_of_uncounted ⟨rfl, fun _ => ⟨rfl, fun _ => trivial⟩⟩
  | metrics =>
    refine fair_of_uncounted ⟨rfl, fun stats => ?_⟩
    cases stats with
    | ok _ => exact ⟨rfl, fun _ => ⟨rfl, fun _ => trivial⟩⟩
    | error _ => exact ⟨rfl, fun _ => trivial⟩
  | messages route token => exact fair_messages r route token

theorem fair_dispatch (r : HttpRequest) : (s.dispatch r).Ends Fair := by
  unfold Service.dispatch
  dsimp only
  split
  · exact additive_fair.ends_result _
  split
  · exact additive_fair.ends_result _
  split
  · exact additive_fair.ends_bind (fair_endpoint r _) fun _ => additive_fair.ends_result _
  · exact additive_fair.ends_result _

/-- Each request that is answered is fair to the counters. -/
theorem fair_handle (r : HttpRequest) : (s.handle r).Ends Fair := by
  have answered (id : List UInt8) (r : HttpRequest) :
      ((s.dispatch r).bind fun p => .result { p with headers := Headers.set p.headers Headers.requestId id }).Ends Fair :=
    additive_fair.ends_bind (fair_dispatch r) fun _ => additive_fair.ends_result _
  unfold Service.handle
  split
  · exact additive_fair.ends_result _
  dsimp only
  split
  · exact answered _ _
  · exact additive_fair.ends_bind (fair_of_uncounted ⟨rfl, fun _ => trivial⟩) fun x => answered _ _

end Service
end Courier
