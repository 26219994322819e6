import Courier.Json.Decoder
/-
What a reader can give, whatever the text it reads. A reader of whole numbers
gives numbers of its range only. A record keeps a property through any text at
all — fields missing, twice, in any order, as an object or as a list — if it
starts with the property and every field keeps it.
-/

namespace Courier.Json

namespace Outcome

variable {α β : Type}

theorem map_done {f : α → β} {o : Outcome α} {b : β} {r : Source} (h : o.map f = .done b r) :
    ∃ a, o = .done a r ∧ f a = b := by
  cases o with
  | done a r' =>
    simp only [map, done.injEq] at h
    obtain ⟨rfl, rfl⟩ := h
    exact ⟨a, rfl, rfl⟩
  | failed e r' => simp [map] at h

theorem andThen_done {o : Outcome α} {next : α → Source → Outcome β} {b : β} {r : Source}
    (h : o.andThen next = .done b r) : ∃ a r', o = .done a r' ∧ next a r' = .done b r := by
  cases o with
  | done a r' => exact ⟨a, r', rfl, h⟩
  | failed e r' => simp [andThen] at h

theorem placed_done {o : Outcome α} {a : α} {r : Source} (h : o.placed = .done a r) : o = .done a r := by
  cases o with
  | done a' r' => exact h
  | failed e r' =>
    obtain ⟨c, place⟩ := e
    cases place <;> simp [placed] at h

end Outcome

namespace Decoder

open Outcome

/-- Whatever a reader gives has a property. -/
def Yields {α : Type} (d : Decoder α) (P : α → Prop) : Prop := ∀ limit s a r, d limit s = .done a r → P a

theorem found_ne_done {α : Type} (wanted : String) (x : Numeral) (s r : Source) (a : α) :
    mismatch.found wanted x s ≠ .done a r := by
  cases x <;> simp [mismatch.found, failUnplaced]

/-- A value of another type than the wanted one is never taken. -/
theorem mismatch_ne_done {α : Type} (wanted : String) (s r : Source) (a : α) : mismatch wanted s ≠ .done a r := by
  intro h
  replace h := placed_done h
  dsimp only at h
  split at h
  iterate 4
    · obtain ⟨_, _, _, h⟩ := andThen_done h
      simp [failUnplaced] at h
  iterate 2
    · simp [failUnplaced] at h
  · obtain ⟨x, r', _, h⟩ := andThen_done h
    exact found_ne_done wanted x r' r a h
  · split at h
    · obtain ⟨x, r', _, h⟩ := andThen_done h
      exact found_ne_done wanted x r' r a h
    · simp [failNext] at h
  · simp [failNext] at h

theorem begin_done {α : Type} {s : Source} {next : Source → Outcome α} {a : α} {r : Source}
    (h : begin s next = .done a r) : next (skipGap s) = .done a r := by
  unfold begin at h
  split at h
  · simp [failNext] at h
  · exact h

theorem take_done {w : Whole} {x : Numeral} {s r : Source} {n : Int} (h : Whole.take w x s = .done n r) :
    w.least ≤ n ∧ n ≤ w.greatest := by
  unfold Whole.take at h
  split at h
  · split at h
    · next hn =>
      simp only [Outcome.done.injEq] at h
      obtain ⟨rfl, -⟩ := h
      exact hn
    · simp [failUnplaced, placed] at h
  · simp [failUnplaced, placed] at h

/-- A reader of whole numbers gives numbers of its range only. -/
theorem whole_yields (w : Whole) : (Layout.whole w : Decoder Int).Yields fun n => w.least ≤ n ∧ n ≤ w.greatest := by
  intro limit s n r h
  have h := begin_done h
  split at h
  · obtain ⟨x, r', _, h⟩ := andThen_done h
    exact take_done h
  · split at h
    · obtain ⟨x, r', _, h⟩ := andThen_done h
      exact take_done h
    · exact absurd h (mismatch_ne_done _ _ _ _)
  · exact absurd h (mismatch_ne_done _ _ _ _)

/-- A reader of texts of some form gives what is read from a text. -/
theorem parsed_yields {α : Type} {P : α → Prop} {wanted : String} {parse : String → Except String α}
    (hparse : ∀ t a, parse t = .ok a → P a) : (Layout.parsed wanted parse : Decoder α).Yields P := by
  intro limit s a r h
  have h := begin_done h
  split at h
  · obtain ⟨t, r', _, h⟩ := andThen_done h
    split at h
    · next b hb =>
      cases h
      exact hparse t a hb
    · simp [failUnplaced, placed] at h
  · exact absurd h (mismatch_ne_done _ _ _ _)

theorem yields_true {α : Type} (d : Decoder α) : d.Yields fun _ => True := fun _ _ _ _ _ => trivial

/-! ## Records -/

section

variable {σ : Type} {P : σ → Prop}

/-- Whether a field keeps a property of records. -/
def Keeps (P : σ → Prop) (f : Field Decoder σ) : Prop := f.read.Yields fun change => ∀ a, P a → P (change a)

theorem optional_keeps {α : Type} {d : Decoder α} {Q : α → Prop} {name : String} {set : α → σ → σ}
    (hd : d.Yields Q) (hset : ∀ v a, Q v → P a → P (set v a)) : Keeps P (.optional name d set) := by
  intro limit s change r h
  obtain ⟨v, hv, rfl⟩ := map_done h
  exact fun a ha => hset v a (hd limit s v r hv) ha

theorem required_keeps {α : Type} {d : Decoder α} {Q : α → Prop} {name : String} {set : α → σ → σ}
    (hd : d.Yields Q) (hset : ∀ v a, Q v → P a → P (set v a)) : Keeps P (.required name d set) := by
  intro limit s change r h
  obtain ⟨v, hv, rfl⟩ := map_done h
  exact fun a ha => hset v a (hd limit s v r hv) ha

theorem between_done {α : Type} {close : Source → Outcome Unit} {body : Source → Outcome α} {s r : Source} {a : α}
    (h : between close body s = .done a r) : ∃ r', body s.tail = .done a r' := by
  have h := placed_done h
  split at h
  · next a' r' hb =>
    obtain ⟨_, _, rfl⟩ := map_done h
    exact ⟨r', hb⟩
  · simp at h

theorem nested_done {α : Type} {depth : Nat} {s r : Source} {body : Nat → Outcome α} {a : α}
    (h : nested depth s body = .done a r) : ∃ d, body d = .done a r := by
  unfold nested at h
  split at h
  · simp [failNext] at h
  · simp [failNext] at h
  · exact ⟨_, h⟩

theorem members_keep {member : σ → String → Source → Outcome σ}
    (hm : ∀ a key s b r, P a → member a key s = .done b r → P b) {fuel : Nat} {first : Bool} {a b : σ} {s r : Source}
    (ha : P a) (h : members member fuel first a s = .done b r) : P b := by
  induction fuel generalizing first a s with
  | zero =>
    simp only [members, Outcome.done.injEq] at h
    exact h.1 ▸ ha
  | succ fuel ih =>
    obtain ⟨more, r₁, _, h⟩ := andThen_done h
    cases more with
    | false =>
      simp only [Outcome.done.injEq] at h
      exact h.1 ▸ ha
    | true =>
      obtain ⟨key, r₂, _, h⟩ := andThen_done h
      obtain ⟨c, r₃, hc, h⟩ := andThen_done h
      exact ih (hm a key r₂ c r₃ ha hc) h

theorem member_keeps {fields : List (Field Decoder σ)} (hf : ∀ f ∈ fields, Keeps P f) {depth : Nat} {p q : Partial σ}
    {key : String} {s r : Source} (hp : P p.value) (h : member fields depth p key s = .done q r) : P q.value := by
  unfold member at h
  split at h
  · next f hfind =>
    split at h
    · simp [failUnplaced] at h
    · obtain ⟨_, r', _, h⟩ := andThen_done h
      obtain ⟨change, hc, rfl⟩ := map_done h
      exact hf f (List.mem_of_find?_eq_some hfind) depth r' change r hc p.value hp
  · obtain ⟨_, r', _, h⟩ := andThen_done h
    obtain ⟨_, _, rfl⟩ := map_done h
    exact hp

theorem recordOfElements_keeps {typeName : String} {count depth index : Nat} {fields : List (Field Decoder σ)}
    (hf : ∀ f ∈ fields, Keeps P f) {a b : σ} {s r : Source} (ha : P a)
    (h : recordOfElements typeName count depth index a fields s = .done b r) : P b := by
  induction fields generalizing index a s with
  | nil =>
    simp only [recordOfElements, Outcome.done.injEq] at h
    exact h.1 ▸ ha
  | cons f fields ih =>
    obtain ⟨more, r₁, _, h⟩ := andThen_done h
    cases more with
    | true =>
      obtain ⟨change, r₂, hc, h⟩ := andThen_done h
      exact ih (fun g hg => hf g (by simp [hg])) (hf f (by simp) depth r₁ change r₂ hc a ha) h
    | false =>
      dsimp only at h
      split at h
      · simp [failUnplaced] at h
      · simp only [Outcome.done.injEq] at h
        exact h.1 ▸ ha

/-- **A record has every property that it starts with and that its fields keep**,
whatever it is read from. -/
theorem record_yields {typeName : String} {start : σ} {fields : List (Field Decoder σ)} (hstart : P start)
    (hf : ∀ f ∈ fields, Keeps P f) : (Layout.record typeName start fields : Decoder σ).Yields P := by
  intro limit s a r h
  have h := begin_done h
  split at h
  · obtain ⟨d, h⟩ := nested_done h
    obtain ⟨r', h⟩ := between_done h
    exact recordOfElements_keeps hf hstart h
  · obtain ⟨d, h⟩ := nested_done h
    obtain ⟨r', h⟩ := between_done h
    obtain ⟨p, r'', hp, h⟩ := andThen_done h
    have hvalue : P p.value :=
      members_keep (P := fun p : Partial σ => P p.value) (fun a key s b r ha hb => member_keeps hf ha hb) hstart hp
    split at h
    · simp [failUnplaced] at h
    · simp only [Outcome.done.injEq] at h
      exact h.1 ▸ hvalue
  · exact absurd h (mismatch_ne_done _ _ _ _)

end

/-- What a whole text is read as. -/
theorem run_yields {α : Type} {d : Decoder α} {P : α → Prop} (hd : d.Yields P) {s : Source} {a : α}
    (h : d.run s = .ok a) : P a := by
  unfold run at h
  split at h
  · next b r hb =>
    simp only [Except.ok.injEq] at h
    subst h
    obtain ⟨c, r', hc, hb⟩ := andThen_done hb
    split at hb
    · simp only [Outcome.done.injEq] at hb
      exact hb.1 ▸ hd _ _ _ _ hc
    · simp [failNext] at hb
  · simp at h

end Decoder
end Courier.Json
