import Courier.Proofs.Json.Yields
import Courier.Proofs.Keyed
/-
Values in which every object has each of its keys once, in their order. Such objects are
the same as soon as the same is found in them, and laying one over another has a rule for
each key. All values that are read from a text are of this kind.
-/

namespace Courier.Json

namespace Object

variable {o base top : Object} {key : String} {v : Value}

/-- Whether each key of an object stands once, in the order of all. -/
def Ordered (o : Object) : Prop := (o.map (·.1)).Pairwise (· < ·)

instance (o : Object) : Decidable o.Ordered := inferInstanceAs (Decidable (List.Pairwise _ _))

theorem ordered_insert (h : o.Ordered) : (o.insert key v).Ordered := by
  rw [insert_eq]
  exact Registry.insert_sorted h

theorem ordered_overlay (h : base.Ordered) : (overlay base top).Ordered := by
  rw [overlay_eq]
  exact Registry.foldl_insert_sorted h

theorem get?_of_before (h : ∀ k ∈ o.map (·.1), key < k) : o.get? key = none := by
  induction o with
  | nil => rfl
  | cons m o ih =>
    obtain ⟨hm, ho⟩ := List.forall_mem_cons.1 h
    rw [get?_cons, if_neg (ne_of_gt hm), ih ho]

theorem get?_of_mem (h : o.Ordered) {m : String × Value} (hm : m ∈ o) : o.get? m.1 = some m.2 := by
  induction o with
  | nil => cases hm
  | cons m' o ih =>
    obtain ⟨hfirst, hrest⟩ := List.pairwise_cons.1 h
    rcases List.mem_cons.1 hm with rfl | hm
    · rw [get?_cons, if_pos rfl]
    · rw [get?_cons, if_neg (ne_of_lt (hfirst _ (List.mem_map_of_mem hm))), ih hrest hm]

/-- **What is laid over an object is found in it**, and under all other keys what was found before. -/
theorem get?_overlay (htop : top.Ordered) : (overlay base top).get? key = (top.get? key).or (base.get? key) := by
  induction top generalizing base with
  | nil => rfl
  | cons m top ih =>
    obtain ⟨k, w⟩ := m
    obtain ⟨hfirst, hrest⟩ := List.pairwise_cons.1 htop
    have hstep : (overlay base ((k, w) :: top)).get? key = (get? top key).or ((base.insert k w).get? key) := ih hrest
    rw [hstep, get?_insert, get?_cons]
    by_cases hk : k = key
    · rw [if_pos hk, if_pos hk, get?_of_before (hk ▸ hfirst), Option.none_or, Option.some_or]
    · rw [if_neg hk, if_neg hk]

/-- A member that is there already changes nothing. -/
theorem insert_of_get? (h : o.Ordered) (hv : o.get? key = some v) : o.insert key v = o := by
  induction o with
  | nil => cases hv
  | cons m o ih =>
    obtain ⟨k, w⟩ := m
    obtain ⟨hfirst, hrest⟩ := List.pairwise_cons.1 h
    rw [get?_cons] at hv
    rw [insert]
    by_cases hk : key = k
    · rw [if_pos hk.symm] at hv
      cases hv
      rw [if_pos hk, hk]
    · rw [if_neg (Ne.symm hk)] at hv
      have hlater : ¬ key < k := by
        intro hlt
        rw [get?_of_before fun k' hk' => hlt.trans (hfirst k' hk')] at hv
        cases hv
      rw [if_neg hk, if_neg hlater, ih hrest hv]

theorem overlay_of_get? (h : o.Ordered) (hall : ∀ m ∈ top, o.get? m.1 = some m.2) : overlay o top = o := by
  induction top with
  | nil => rfl
  | cons m top ih =>
    obtain ⟨hm, htop⟩ := List.forall_mem_cons.1 hall
    have hstep : overlay o (m :: top) = overlay (o.insert m.1 m.2) top := rfl
    rw [hstep, insert_of_get? h hm, ih htop]

/-- What was laid over an object once is there. -/
theorem overlay_twice (hbase : base.Ordered) (htop : top.Ordered) :
    overlay (overlay base top) top = overlay base top := by
  refine overlay_of_get? (ordered_overlay hbase) fun m hm => ?_
  rw [get?_overlay htop, get?_of_mem htop hm, Option.some_or]

end Object

/-- Whether all objects in a value are ordered, itself among them. -/
inductive Value.Canonical : Value → Prop
  | null : Canonical .null
  | bool (b : Bool) : Canonical (.bool b)
  | int (n : Int) : Canonical (.int n)
  | real (x : Number.Binary64) : Canonical (.real x)
  | text (s : String) : Canonical (.text s)
  | array {xs : List Value} (elements : ∀ x ∈ xs, Canonical x) : Canonical (.array xs)
  | object {ms : Object} (ordered : ms.Ordered) (members : ∀ m ∈ ms, Canonical m.2) : Canonical (.object ms)

namespace Object

/-- Whether an object is ordered, and so is what it holds. -/
abbrev Canonical (o : Object) : Prop := (Value.object o).Canonical

variable {o base top : Object} {key : String} {v : Value}

theorem Canonical.ordered (h : o.Canonical) : o.Ordered := by
  cases h with
  | object ordered _ => exact ordered

theorem Canonical.members (h : o.Canonical) : ∀ m ∈ o, m.2.Canonical := by
  cases h with
  | object _ members => exact members

theorem canonical_nil : Canonical [] := .object .nil (by simp)

theorem mem_of_get? (h : o.get? key = some v) : (key, v) ∈ o := by
  induction o with
  | nil => cases h
  | cons m o ih =>
    obtain ⟨k, w⟩ := m
    rw [get?_cons] at h
    split at h
    · next hk =>
      cases h
      exact hk ▸ List.mem_cons_self
    · exact List.mem_cons_of_mem _ (ih h)

theorem Canonical.get? (h : o.Canonical) (hv : o.get? key = some v) : v.Canonical :=
  h.members (key, v) (mem_of_get? hv)

theorem Canonical.insert (h : o.Canonical) (hv : v.Canonical) : (o.insert key v).Canonical := by
  refine .object (ordered_insert h.ordered) fun m hm => ?_
  have hfound := get?_of_mem (ordered_insert h.ordered) hm
  rw [get?_insert] at hfound
  split at hfound
  · cases hfound
    exact hv
  · exact h.get? hfound

theorem Canonical.overlay (hbase : base.Canonical) (htop : ∀ m ∈ top, m.2.Canonical) :
    (Object.overlay base top).Canonical := by
  induction top generalizing base with
  | nil => exact hbase
  | cons m top ih =>
    obtain ⟨hm, htop⟩ := List.forall_mem_cons.1 htop
    exact ih (hbase.insert hm) htop

theorem canonical_ofMembers {ms : List (String × Value)} (h : ∀ m ∈ ms, m.2.Canonical) : (ofMembers ms).Canonical :=
  canonical_nil.overlay h

end Object

/-! ## Values that are read -/

namespace Decoder

open Outcome

theorem elements_keep {α : Type} {P : α → Prop} {item : Source → Outcome α}
    (hitem : ∀ s a r, item s = .done a r → P a) {fuel : Nat} {first : Bool} {acc as : List α} {s r : Source}
    (hacc : ∀ a ∈ acc, P a) (h : elements item fuel first acc s = .done as r) : ∀ a ∈ as, P a := by
  have hdone {acc : List α} (hacc : ∀ a ∈ acc, P a) {r' : Source} (h : Outcome.done acc.reverse r' = .done as r) :
      ∀ a ∈ as, P a := by
    cases h
    exact fun a ha => hacc a (List.mem_reverse.1 ha)
  induction fuel generalizing first acc s with
  | zero => exact hdone hacc h
  | succ fuel ih =>
    obtain ⟨more, r₁, _, h⟩ := andThen_done h
    cases more with
    | false => exact hdone hacc h
    | true =>
      obtain ⟨a, r₂, ha, h⟩ := andThen_done h
      exact ih (List.forall_mem_cons.2 ⟨hitem r₁ a r₂ ha, hacc⟩) h

theorem tableBody_canonical {d : Source → Outcome Value} (hd : ∀ s v r, d s = .done v r → v.Canonical)
    {s r : Source} {o : Object} (h : tableBody d s = .done o r) : o.Canonical := by
  obtain ⟨ms, hms, rfl⟩ := map_done h
  have hmembers : ∀ m ∈ ms, m.2.Canonical := by
    refine members_keep (P := fun ms : List (String × Value) => ∀ m ∈ ms, m.2.Canonical) ?_ (by simp) hms
    intro acc key s acc' r hacc hmember
    obtain ⟨_, r', _, hmember⟩ := andThen_done hmember
    obtain ⟨v, hv, rfl⟩ := map_done hmember
    exact List.forall_mem_cons.2 ⟨hd r' v r hv, hacc⟩
  exact Object.canonical_ofMembers fun m hm => hmembers m (List.mem_reverse.1 hm)

theorem valueWith_canonical {nest : Source → Outcome Value} (hnest : ∀ s v r, nest s = .done v r → v.Canonical)
    {s r : Source} {v : Value} (h : valueWith nest s = .done v r) : v.Canonical := by
  have h := begin_done h
  split at h
  · obtain ⟨_, _, rfl⟩ := map_done h
    exact .null
  iterate 2
    · obtain ⟨_, _, rfl⟩ := map_done h
      exact .bool _
  · obtain ⟨x, _, rfl⟩ := map_done h
    cases x with
    | whole n => exact .int n
    | real x => exact .real x
  · obtain ⟨t, _, rfl⟩ := map_done h
    exact .text t
  · split at h
    · exact hnest _ v r h
    · split at h
      · obtain ⟨x, _, rfl⟩ := map_done h
        cases x with
        | whole n => exact .int n
        | real x => exact .real x
      · simp [failNext] at h
  · simp [failNext] at h

/-- **A value that is read is canonical**, in whatever order the members of its objects are written. -/
theorem value_yields : value.Yields Value.Canonical := by
  intro limit
  have htooDeep (s : Source) (v : Value) (r : Source) (h : failNext .tooDeep s = .done v r) : v.Canonical := by
    simp [failNext] at h
  induction limit with
  | zero => exact fun s v r h => valueWith_canonical htooDeep h
  | succ d ih =>
    refine fun s v r h => valueWith_canonical (fun s v r h => ?_) h
    split at h
    · exact htooDeep s v r h
    split at h
    · obtain ⟨r', h⟩ := between_done h
      obtain ⟨xs, hxs, rfl⟩ := map_done h
      exact .array (elements_keep ih (by simp) hxs)
    · obtain ⟨r', h⟩ := between_done h
      obtain ⟨o, ho, rfl⟩ := map_done h
      exact tableBody_canonical ih ho

theorem table_yields : (Layout.table : Decoder Object).Yields Object.Canonical := by
  intro limit s o r h
  have h := begin_done h
  split at h
  · obtain ⟨d, h⟩ := nested_done h
    obtain ⟨r', h⟩ := between_done h
    exact tableBody_canonical (value_yields d) h
  · exact absurd h (mismatch_ne_done _ _ _ _)

end Decoder
end Courier.Json
