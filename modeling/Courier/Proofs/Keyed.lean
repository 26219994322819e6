import Mathlib.Data.String.Basic
import Courier.Target.Registry
/-
Values under keys, kept in the order of the keys. Each key stands once, however the
values came in, and what is found under it is the one that came last. Registries of
targets are kept so, and objects.
-/

namespace Courier

/-- The last of a list with some property is the one behind which there is no other. -/
theorem find?_reverse_some {α : Type} {p : α → Bool} {l : List α} {a : α} :
    l.reverse.find? p = some a ↔ p a ∧ ∃ before after, l = before ++ a :: after ∧ ∀ b ∈ after, ¬ p b := by
  rw [List.find?_eq_some_iff_append]
  constructor
  · rintro ⟨ha, as, bs, h, hall⟩
    refine ⟨ha, bs.reverse, as.reverse, ?_, fun b hb => by simpa using hall b (List.mem_reverse.1 hb)⟩
    simpa using List.reverse_eq_append_iff.1 h
  · rintro ⟨ha, before, after, rfl, hall⟩
    exact ⟨ha, after.reverse, before.reverse, by simp, fun b hb => by simpa using hall b (List.mem_reverse.1 hb)⟩

namespace Registry

variable {β : Type} {key k : String} {b : β} {r : List (String × β)}

theorem key_of_insert (h : k ∈ (insert key b r).map (·.1)) : k = key ∨ k ∈ r.map (·.1) := by
  induction r with
  | nil => simpa [insert] using h
  | cons p r ih =>
    simp only [insert] at h
    split at h
    · next he =>
      rcases List.mem_cons.1 h with rfl | h
      · exact .inl rfl
      · exact .inr (List.mem_cons_of_mem _ h)
    · split at h
      · simpa using h
      · rcases List.mem_cons.1 h with rfl | h
        · exact .inr List.mem_cons_self
        · exact (ih h).imp_right (List.mem_cons_of_mem _)

theorem insert_sorted (h : (r.map (·.1)).Pairwise (· < ·)) : ((insert key b r).map (·.1)).Pairwise (· < ·) := by
  induction r with
  | nil => exact List.pairwise_singleton _ _
  | cons p r ih =>
    obtain ⟨hp, hr⟩ := List.pairwise_cons.1 h
    simp only [insert]
    split
    · next he => exact List.pairwise_cons.2 ⟨fun k hk => he ▸ hp k hk, hr⟩
    · next hne =>
      split
      · next hlt =>
        refine List.pairwise_cons.2 ⟨fun k hk => ?_, h⟩
        rcases List.mem_cons.1 hk with rfl | hk
        · exact hlt
        · exact hlt.trans (hp k hk)
      · next hle =>
        refine List.pairwise_cons.2 ⟨fun k hk => ?_, ih hr⟩
        rcases key_of_insert hk with rfl | hk
        · exact lt_of_le_of_ne (not_lt.1 hle) (Ne.symm hne)
        · exact hp k hk

/-- A value comes in under its own key, and what stands under others stays. -/
theorem find?_insert : (insert key b r).find? (·.1 == k) = if key = k then some (key, b) else r.find? (·.1 == k) := by
  induction r with
  | nil => by_cases hk : key = k <;> simp [insert, hk]
  | cons p r ih =>
    obtain ⟨k', c⟩ := p
    simp only [insert]
    split
    · next he =>
      subst he
      by_cases hk : key = k <;> simp [hk]
    · next hne =>
      split
      · by_cases hk : key = k <;> simp [hk]
      · rw [List.find?_cons, ih, List.find?_cons]
        by_cases hk : k' = k
        · subst hk
          simp [hne]
        · simp [beq_false_of_ne hk]

theorem foldl_insert_sorted {l : List (String × β)} (h : (r.map (·.1)).Pairwise (· < ·)) :
    ((l.foldl (fun r p => insert p.1 p.2 r) r).map (·.1)).Pairwise (· < ·) := by
  induction l generalizing r with
  | nil => exact h
  | cons p l ih => exact ih (insert_sorted h)

/-- However targets are given, each identifier stands once, in the order of all. -/
theorem ofList_sorted (l : List (String × β)) : ((ofList l).map (·.1)).Pairwise (· < ·) :=
  foldl_insert_sorted .nil

theorem find?_foldl_insert {l : List (String × β)} :
    (l.foldl (fun r p => insert p.1 p.2 r) r).find? (·.1 == k) = (l.reverse.find? (·.1 == k)).or (r.find? (·.1 == k)) := by
  induction l generalizing r with
  | nil => rfl
  | cons p l ih =>
    obtain ⟨key, b⟩ := p
    rw [List.foldl_cons, ih, find?_insert, List.reverse_cons, List.find?_append, Option.or_assoc]
    by_cases hk : key = k <;> simp [hk]

/-- Of several values under one key the last one is kept. -/
theorem find?_ofList (l : List (String × β)) : (ofList l).find? (·.1 == k) = l.reverse.find? (·.1 == k) := by
  rw [ofList, find?_foldl_insert, List.find?_nil, Option.or_none]

section

variable {γ : Type} (f : β → γ)

theorem map_insert : (insert key b r).map (fun p => (p.1, f p.2)) = insert key (f b) (r.map fun p => (p.1, f p.2)) := by
  induction r with
  | nil => rfl
  | cons p r ih =>
    simp only [insert, List.map_cons]
    split
    · rfl
    · split
      · rfl
      · rw [List.map_cons, ih]

/-- Values can be changed before or after they are put in order. -/
theorem map_ofList (l : List (String × β)) :
    (ofList l).map (fun p => (p.1, f p.2)) = ofList (l.map fun p => (p.1, f p.2)) := by
  suffices hfold : ∀ r : List (String × β), (l.foldl (fun r p => insert p.1 p.2 r) r).map (fun p => (p.1, f p.2)) =
      (l.map fun p => (p.1, f p.2)).foldl (fun r p => insert p.1 p.2 r) (r.map fun p => (p.1, f p.2)) from hfold []
  induction l with
  | nil => exact fun _ => rfl
  | cons p l ih => exact fun r => (ih _).trans (by rw [map_insert]; rfl)

end

end Registry

namespace Json.Object

/-- Members are stored as targets are. -/
theorem insert_eq (o : Object) (key : String) (v : Value) : o.insert key v = Registry.insert key v o := by
  induction o with
  | nil => rfl
  | cons m o ih =>
    obtain ⟨k, w⟩ := m
    rw [insert, Registry.insert, ih]

theorem overlay_eq (base top : Object) : overlay base top = top.foldl (fun o m => Registry.insert m.1 m.2 o) base := by
  simp only [overlay, insert_eq]

end Json.Object
end Courier
