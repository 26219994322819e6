import Courier.Queue
/-
Where the tasks of a queue in memory are. A call moves tasks from one place of
the queue to another, puts a new one in, or takes a settled one out; none of them
loses a task or makes two of one, as long as the identifiers are distinct.
-/

namespace Courier.MemoryQueue

/-- All tasks of the queue, dead ones too. -/
def tasks (q : MemoryQueue) : List Task :=
  q.pending ++ (q.scheduled.map (·.2) ++ (q.inflight ++ q.dead.map (·.task)))

variable {q : MemoryQueue}

theorem perm_enqueue (q : MemoryQueue) (t : Task) : (q.enqueue t).tasks.Perm (t :: q.tasks) := by
  simp only [tasks, enqueue, List.append_assoc, List.singleton_append]
  exact List.perm_middle

theorem perm_promote (q : MemoryQueue) (now : Time) : (q.promote now).tasks.Perm q.tasks := by
  have h := (List.filter_append_perm (fun s : Time × Task => decide (s.1 ≤ now)) q.scheduled).map (·.2)
  simp only [List.map_append] at h
  simp only [tasks, promote, List.append_assoc]
  refine List.Perm.append_left _ ?_
  rw [← List.append_assoc]
  exact h.append_right _

theorem mem_pending_promote {now : Time} {t : Task} :
    t ∈ (q.promote now).pending ↔ t ∈ q.pending ∨ ∃ due ≤ now, (due, t) ∈ q.scheduled := by
  simp [promote, and_comm]

theorem mem_scheduled_promote {now due : Time} {t : Task} :
    (due, t) ∈ (q.promote now).scheduled ↔ (due, t) ∈ q.scheduled ∧ now < due := by
  simp [promote]

theorem perm_recover (q : MemoryQueue) : q.recover.1.tasks.Perm q.tasks := by
  simp only [tasks, recover, List.append_assoc, List.nil_append]
  refine List.Perm.append_left _ ?_
  rw [← List.append_assoc, ← List.append_assoc]
  exact List.perm_append_comm.append_right _

/-! ## Releasing a task -/

theorem perm_filter_id {l : List Task} {t : Task} (hids : (l.map (·.id)).Nodup) (ht : t ∈ l) :
    l.Perm (t :: l.filter fun u => u.id ≠ t.id) := by
  induction l with
  | nil => cases ht
  | cons u l ih =>
    simp only [List.map_cons, List.nodup_cons, List.mem_map, not_exists, not_and] at hids
    rcases List.mem_cons.1 ht with rfl | ht
    · have hrest : l.filter (fun u => u.id ≠ t.id) = l := by
        rw [List.filter_eq_self]
        exact fun v hv => by simpa using hids.1 v hv
      simp only [List.filter_cons, ne_eq, not_true, decide_false, Bool.false_eq_true, if_false, hrest]
      exact .refl _
    · have hne : u.id ≠ t.id := fun he => hids.1 t ht he.symm
      simp only [List.filter_cons, ne_eq, hne, not_false_eq_true, decide_true, if_true]
      exact ((ih hids.2 ht).cons u).trans (.swap t u _)

theorem filter_id_of_notMem {l : List Task} {id : Uuid} (h : id ∉ l.map (·.id)) : l.filter (fun u => u.id ≠ id) = l := by
  rw [List.filter_eq_self]
  intro u hu
  have hne : u.id ≠ id := fun he => h (he ▸ List.mem_map_of_mem hu)
  simpa using hne

/-- With distinct identifiers, one task is released, and no other. -/
theorem perm_release {t : Task} (hids : (q.tasks.map (·.id)).Nodup) (ht : t ∈ q.inflight) :
    q.tasks.Perm (t :: (q.release t.id).tasks) := by
  have hinflight : (q.inflight.map (·.id)).Nodup := by
    simp only [tasks, List.map_append, List.nodup_append] at hids
    exact hids.2.1.2.1.1
  have h := perm_filter_id hinflight ht
  simp only [tasks, release]
  refine (((h.append_right _).append_left _).append_left _).trans ?_
  rw [List.cons_append]
  exact (List.perm_middle.append_left _).trans List.perm_middle

theorem mem_release {t u : Task} (hu : u ∈ q.inflight) (hne : u.id ≠ t.id) : u ∈ (q.release t.id).inflight := by
  simp only [release, List.mem_filter]
  exact ⟨hu, by simpa using hne⟩

/-! ## Settling a task -/

theorem perm_ack {d : Delivery} (hids : (q.tasks.map (·.id)).Nodup) (hd : d.task ∈ q.inflight) :
    q.tasks.Perm (d.task :: (q.ack d).tasks) :=
  perm_release hids hd

theorem perm_retry (q : MemoryQueue) (d : Delivery) (now wait : Time) :
    (q.retry d now wait).tasks.Perm (d.task.next :: (q.release d.task.id).tasks) := by
  simp only [tasks, retry, release, List.map_append, List.map_cons, List.map_nil, List.append_assoc,
    List.singleton_append]
  exact (List.perm_middle.append_left _).trans List.perm_middle

theorem perm_deadLetter {d : Delivery} (hids : (q.tasks.map (·.id)).Nodup) (hd : d.task ∈ q.inflight)
    (reason : String) (at_ : Calendar.Moment) : (q.deadLetter d reason at_).tasks.Perm q.tasks := by
  refine List.Perm.trans ?_ (perm_release hids hd).symm
  simp only [tasks, deadLetter, release, List.map_append, List.map_cons, List.map_nil]
  rw [← List.append_assoc, ← List.append_assoc, ← List.append_assoc, ← List.append_assoc, ← List.append_assoc]
  exact List.perm_append_comm

/-! ## Handing out a task -/

/-- There is nothing to hand out, or the first waiting task is handed out. -/
theorem dequeue_cases (q : MemoryQueue) (now : Time) :
    ((q.promote now).pending = [] ∧ q.dequeue now = (q.promote now, none)) ∨
    ∃ t r, (q.promote now).pending = t :: r ∧
      q.dequeue now =
        ({ q.promote now with pending := r, inflight := ((q.promote now).release t.id).inflight ++ [t] },
          some ⟨t, t.id.text⟩) := by
  cases h : (q.promote now).pending with
  | nil => exact .inl ⟨rfl, by simp only [dequeue, h]⟩
  | cons t r =>
    refine .inr ⟨t, r, rfl, ?_⟩
    simp only [dequeue, h]
    rfl

/-- What is handed out was waiting, or was due. -/
theorem mem_of_dequeued {now : Time} {d : Delivery} (h : (q.dequeue now).2 = some d) :
    d.task ∈ (q.promote now).pending := by
  rcases dequeue_cases q now with ⟨-, hq⟩ | ⟨t, r, hpending, hq⟩
  · rw [hq] at h
    cases h
  · rw [hq] at h
    cases h
    exact hpending ▸ List.mem_cons_self

/-- With distinct identifiers, a waiting task is not in flight. -/
theorem notMem_inflight {now : Time} {t : Task} {r : List Task} (hids : (q.tasks.map (·.id)).Nodup)
    (h : (q.promote now).pending = t :: r) : t.id ∉ q.inflight.map (·.id) := by
  have hids' := ((perm_promote q now).map (·.id)).nodup_iff.2 hids
  simp only [tasks, h, List.cons_append, List.map_cons, List.nodup_cons, List.map_append, List.mem_append,
    not_or] at hids'
  exact hids'.1.2.2.1

/-- So handing a task out displaces none in flight. -/
theorem inflight_dequeue {now : Time} {t : Task} {r : List Task} (hids : (q.tasks.map (·.id)).Nodup)
    (h : (q.promote now).pending = t :: r) : ((q.promote now).release t.id).inflight = q.inflight := by
  have hnew := notMem_inflight (q := q) hids h
  exact filter_id_of_notMem hnew

theorem perm_dequeue (hids : (q.tasks.map (·.id)).Nodup) (now : Time) : (q.dequeue now).1.tasks.Perm q.tasks := by
  rcases dequeue_cases q now with ⟨-, hq⟩ | ⟨t, r, hpending, hq⟩
  · rw [hq]
    exact perm_promote q now
  · rw [hq]
    refine List.Perm.trans ?_ (perm_promote q now)
    have hinflight : (q.promote now).inflight = q.inflight := rfl
    simp only [tasks, hpending, inflight_dequeue hids hpending, hinflight, List.append_assoc,
      List.cons_append]
    exact ((List.perm_middle.append_left _).append_left _).trans
      ((List.perm_middle.append_left _).trans List.perm_middle)

end Courier.MemoryQueue
