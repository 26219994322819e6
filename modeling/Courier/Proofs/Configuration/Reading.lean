import Courier.Configuration.Loading
import Courier.Proofs.Json.Canonical
import Courier.Proofs.Outcome
/-
What can be read from a configuration, whatever tree it is. As for texts, a record keeps
a property if it starts with it and every field keeps it. So all arguments in a
configuration are canonical, however they are written there.
-/

namespace Courier

namespace Configuration.Reading

open Json (Layout Field Object Value)

/-- Whatever a reader gives has a property. -/
def Yields {α : Type} (d : Reading α) (P : α → Prop) : Prop := ∀ t a, d t = .ok a → P a

theorem yields_true {α : Type} (d : Reading α) : d.Yields fun _ => True := fun _ _ _ => trivial

/-! ## Lists -/

theorem itemsFrom_yields {α : Type} {P : α → Prop} {item : Reading α} (hitem : item.Yields P) {i : Nat} {ts : List Tree}
    {as : List α} (h : itemsFrom item i ts = .ok as) : ∀ a ∈ as, P a := by
  induction ts generalizing i as with
  | nil =>
    cases h
    simp
  | cons t ts ih =>
    obtain ⟨a, ha, h⟩ := bind_ok.1 h
    obtain ⟨as', has, h⟩ := bind_ok.1 h
    cases h
    exact List.forall_mem_cons.2 ⟨hitem t a (ok_of_mapError ha), ih has⟩

theorem list_yields {α : Type} {P : α → Prop} {item : Reading α} (hitem : item.Yields P) :
    (Layout.list item : Reading (List α)).Yields fun as => ∀ a ∈ as, P a := by
  intro t as h
  change list item t = .ok as at h
  unfold list at h
  split at h
  · exact itemsFrom_yields hitem h
  · cases h

/-! ## Records -/

section

variable {σ : Type} {P : σ → Prop} {fields : List (Field Reading σ)} {a b : σ}

/-- Whether a field keeps a property of records. -/
def Keeps (P : σ → Prop) (f : Field Reading σ) : Prop := f.read.Yields fun change => ∀ a, P a → P (change a)

theorem optional_keeps {α : Type} {d : Reading α} {Q : α → Prop} {name : String} {set : α → σ → σ} (hd : d.Yields Q)
    (hset : ∀ v a, Q v → P a → P (set v a)) : Keeps P (.optional name d set) := by
  intro t change h
  obtain ⟨v, hv, rfl⟩ := ok_of_map h
  exact fun a ha => hset v a (hd t v hv) ha

theorem required_keeps {α : Type} {d : Reading α} {Q : α → Prop} {name : String} {set : α → σ → σ} (hd : d.Yields Q)
    (hset : ∀ v a, Q v → P a → P (set v a)) : Keeps P (.required name d set) := by
  intro t change h
  obtain ⟨v, hv, rfl⟩ := ok_of_map h
  exact fun a ha => hset v a (hd t v hv) ha

theorem readMembers_keeps (hf : ∀ f ∈ fields, Keeps P f) {ms : List (String × Tree)} (ha : P a)
    (h : readMembers fields a ms = .ok b) : P b := by
  induction ms generalizing a with
  | nil =>
    cases h
    exact ha
  | cons m ms ih =>
    obtain ⟨key, t⟩ := m
    rw [readMembers] at h
    split at h
    · next f hfind =>
      obtain ⟨change, hc, h⟩ := bind_ok.1 h
      exact ih (hf f (List.mem_of_find?_eq_some hfind) t change (ok_of_mapError hc) a ha) h
    · exact ih ha h

theorem readItems_keeps {typeName : String} {count i : Nat} (hf : ∀ f ∈ fields, Keeps P f) {ts : List Tree} (ha : P a)
    (h : readItems typeName count i a fields ts = .ok b) : P b := by
  induction fields generalizing i a ts with
  | nil =>
    cases h
    exact ha
  | cons f fields ih =>
    obtain ⟨hfirst, hrest⟩ := List.forall_mem_cons.1 hf
    cases ts with
    | nil =>
      simp only [readItems] at h
      split at h
      · cases h
      · cases h
        exact ha
    | cons t ts =>
      obtain ⟨change, hc, h⟩ := bind_ok.1 h
      exact ih hrest (hfirst t change (ok_of_mapError hc) a ha) h

/-- **A record has every property that it starts with and that its fields keep**, whatever it is read from. -/
theorem record_yields {typeName : String} {start : σ} (hstart : P start) (hf : ∀ f ∈ fields, Keeps P f) :
    (Layout.record typeName start fields : Reading σ).Yields P := by
  intro t a h
  change record typeName start fields t = .ok a at h
  unfold record at h
  split at h
  · obtain ⟨b, hb, h⟩ := bind_ok.1 h
    split at h
    · cases h
    · cases h
      exact readMembers_keeps hf hstart hb
  · exact readItems_keeps hf hstart h
  · cases h

end

/-! ## Free-form values -/

mutual

theorem toValue_canonical (t : Tree) : (toValue t).Canonical :=
  match t with
  | .nothing _ => .null
  | .flag b _ => .bool b
  | .whole n _ => .int n
  | .real (.finite _ _ _) _ => .real _
  | .real (.infinite _) _ | .real .nan _ => .null
  | .text s _ => .text s
  | .list ts _ => .array (toValues_canonical ts)
  | .table ms _ => toObject_canonical ms

theorem toValues_canonical (ts : List Tree) : ∀ v ∈ toValues ts, v.Canonical :=
  match ts with
  | [] => by simp [toValues]
  | t :: r => List.forall_mem_cons.2 ⟨toValue_canonical t, toValues_canonical r⟩

/-- A table of a configuration is canonical as an object, in whatever order its members are written. -/
theorem toObject_canonical (ms : List (String × Tree)) : (toObject ms).Canonical :=
  match ms with
  | [] => Object.canonical_nil
  | (_, t) :: r => (toObject_canonical r).insert (toValue_canonical t)

end

theorem table_yields : (Layout.table : Reading Object).Yields Object.Canonical := by
  intro t o h
  change table t = .ok o at h
  unfold table at h
  split at h
  · cases h
    exact toObject_canonical _
  · cases h

/-! ## Tenants -/

theorem target_yields : (Target.layout : Reading Target).Yields fun t => Object.Canonical t.args := by
  refine record_yields Object.canonical_nil ?_
  simp only [List.forall_mem_cons, List.not_mem_nil, false_imp_iff, implies_true, and_true]
  exact ⟨required_keeps (yields_true _) fun _ _ _ h => h, optional_keeps (yields_true _) fun _ _ _ h => h,
    required_keeps (yields_true _) fun _ _ _ h => h, optional_keeps table_yields fun _ _ h _ => h⟩

theorem application_yields : (Application.layout : Reading Application).Yields fun a => Object.Canonical a.targetArgs := by
  refine record_yields Object.canonical_nil ?_
  simp only [List.forall_mem_cons, List.not_mem_nil, false_imp_iff, implies_true, and_true]
  refine ⟨required_keeps (yields_true _) fun _ _ _ h => h, ?_, ?_, ?_, ?_, ?_, ?_, ?_, ?_, ?_, ?_,
    required_keeps (yields_true _) fun _ _ _ h => h, optional_keeps table_yields fun _ _ h _ => h⟩
  all_goals exact optional_keeps (yields_true _) fun _ _ _ h => h

theorem user_yields : (User.layout : Reading User).Yields fun u => ∀ a ∈ u.applications, Object.Canonical a.targetArgs := by
  refine record_yields (by simp) ?_
  simp only [List.forall_mem_cons, List.not_mem_nil, false_imp_iff, implies_true, and_true]
  exact ⟨required_keeps (yields_true _) fun _ _ _ h => h, optional_keeps (yields_true _) fun _ _ _ h => h,
    optional_keeps (list_yields application_yields) fun _ _ h _ => h⟩

end Configuration.Reading

namespace Settings

open Configuration.Reading
open Json (Object)

/-- Whether all arguments of tenants are canonical. -/
structure Canonical (s : Settings) : Prop where
  targets : ∀ t ∈ s.targets, Object.Canonical t.args
  applications : ∀ u ∈ s.users, ∀ a ∈ u.applications, Object.Canonical a.targetArgs

theorem layout_yields : (Settings.layout : Configuration.Reading Settings).Yields Canonical := by
  refine record_yields ⟨by simp, by simp⟩ ?_
  simp only [List.forall_mem_cons, List.not_mem_nil, false_imp_iff, implies_true, and_true]
  refine ⟨?_, ?_, ?_, ?_, ?_, ?_, optional_keeps (list_yields user_yields) fun _ _ h hs => ⟨hs.targets, h⟩,
    optional_keeps (list_yields target_yields) fun _ _ h hs => ⟨h, hs.applications⟩⟩
  all_goals exact optional_keeps (yields_true _) fun _ _ _ h => ⟨h.targets, h.applications⟩

/-- **All arguments in a configuration are canonical**, whatever its files and variables say. -/
theorem load_canonical {files : Configuration.Folder} {vs : Configuration.Variables} {s : Settings}
    (h : load files vs = .ok s) : s.Canonical := by
  obtain ⟨t, -, h⟩ := bind_ok.1 h
  obtain ⟨t', -, h⟩ := bind_ok.1 h
  exact layout_yields _ s h

end Settings
end Courier
