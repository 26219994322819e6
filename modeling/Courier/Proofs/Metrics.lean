import Courier.Metrics
/-
What counting comes to. A counter tells how often its own thing was counted, in whatever
order things were counted.
-/

namespace Courier.Metrics

variable {m : Metrics} {c c' : Count}

/-- One more of something is one more of that, and of nothing else. -/
theorem count_increment : (m.increment c).count c' = m.count c' + if c = c' then 1 else 0 := by
  unfold increment count
  split
  · next hcounted =>
    -- the counters keep their places, and the one that is looked for is one higher
    obtain ⟨p, hp, hpc⟩ := List.any_eq_true.1 hcounted
    have hfind : ((m.counts.map fun p => if p.1 = c then (p.1, p.2 + 1) else p).find? fun p => p.1 = c') =
        (m.counts.find? fun p => p.1 = c').map fun p => if p.1 = c then (p.1, p.2 + 1) else p := by
      rw [List.find?_map]
      congr 2
      funext p
      simp only [Function.comp_apply]
      split <;> rfl
    simp only [hfind]
    cases hfound : m.counts.find? fun p => p.1 = c' with
    | none =>
      have hne : c ≠ c' := by
        rintro rfl
        exact absurd hpc (List.find?_eq_none.1 hfound p hp)
      simp [hne]
    | some p' =>
      have hp' : p'.1 = c' := by simpa using List.find?_some hfound
      by_cases hc : c = c'
      · simp [hc, hp']
      · have hne : p'.1 ≠ c := fun h => hc (h.symm.trans hp')
        simp [hc, hne]
  · next hnew =>
    have hnone : (m.counts.find? fun p => p.1 = c) = none := by
      rw [List.find?_eq_none]
      intro p hp hpc
      exact hnew (List.any_eq_true.2 ⟨p, hp, hpc⟩)
    simp only [List.find?_append]
    by_cases hc : c = c'
    · subst hc
      simp [hnone]
    · simp [hc]

/-- What is counted one after the other adds up. -/
theorem count_increments (cs : List Count) (c : Count) : (cs.foldl increment m).count c = m.count c + cs.count c := by
  induction cs generalizing m with
  | nil => rfl
  | cons c' cs ih =>
    rw [List.foldl_cons, ih, count_increment, List.count_cons]
    simp only [beq_iff_eq]
    omega

@[simp] theorem count_new : ({} : Metrics).count c = 0 := rfl

end Courier.Metrics
