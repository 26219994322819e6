import Mathlib.Data.List.Nodup
import Courier.Proofs.Keyed
import Courier.Proofs.Outcome
import Courier.Proofs.Tenant.Resolver
import Courier.Target.Building
import Courier.Relay
/-
From which record a target is built. When the relay starts, it makes one target for each
identifier that an enabled record has, and of several such records the last one is taken. When a
message is delivered, its target is looked up among all records, and the first one is taken.
So the target that delivers may be built from another record than the arguments come from.
-/

namespace Courier

open Procedure

/-! ## Targets on their slots -/

/-- Whether a slot holds a target as a record describes it, which was asked nothing yet. -/
inductive BuiltFrom (t : Target) : TargetSlot → Prop
  | xmpp (h : t.kind = "xmpp") : BuiltFrom t { backend := .xmpp { args := t.args } }
  | apprise (h : t.kind = "apprise") : BuiltFrom t { backend := .apprise { args := t.args } }

/-- A target under an identifier, as its record describes it. -/
structure Placed (t : Target) (p : String × TargetSlot) : Prop where
  id : p.1 = t.id
  built : BuiltFrom t p.2

section

variable {t u : Target} {slot : TargetSlot} {ts : List Target} {ps : List (String × TargetSlot)} {id : String}

theorem BuiltFrom.kind_args (h : BuiltFrom t slot) :
    t.kind = slot.kind.name ∧ (slot.backend = .xmpp { args := t.args } ∨ slot.backend = .apprise { args := t.args }) := by
  cases h with
  | xmpp ht => exact ⟨ht, .inl rfl⟩
  | apprise ht => exact ⟨ht, .inr rfl⟩

/-- Records that build the same say the same of the target. -/
theorem BuiltFrom.same (h : BuiltFrom t slot) (h' : BuiltFrom u slot) : t.kind = u.kind ∧ t.args = u.args := by
  obtain ⟨hkind, hbackend⟩ := h.kind_args
  obtain ⟨hkind', hbackend'⟩ := h'.kind_args
  refine ⟨hkind.trans hkind'.symm, ?_⟩
  rcases hbackend with hbackend | hbackend <;> rcases hbackend' with hbackend' | hbackend' <;> rw [hbackend] at hbackend'
  · simpa using hbackend'
  · cases hbackend'
  · cases hbackend'
  · simpa using hbackend'

theorem ofName?_some {name : String} {kind : TargetKind} (h : TargetKind.ofName? name = some kind) : name = kind.name := by
  unfold TargetKind.ofName? at h
  split at h
  · cases h
    assumption
  · split at h
    · cases h
      assumption
    · cases h

/-- Targets of known kinds are put on slots, each as its record describes it. -/
theorem build_of_kinds {kinds : List (String × TargetKind)} (h : Registry.kinds ts = .ok kinds) :
    ∃ ps, Registry.build ts = .ok (Registry.ofList ps) ∧ List.Forall₂ Placed ts ps ∧
      ps.map (fun p => (p.1, p.2.kind)) = kinds := by
  refine ⟨_, bind_ok.2 ⟨kinds, h, rfl⟩, ?_⟩
  have hkinds := mapM_ok.1 h
  clear h
  induction hkinds with
  | nil => exact ⟨.nil, rfl⟩
  | @cons t k ts kinds hk _ ih =>
    split at hk
    · next kind hkind =>
      cases hk
      have hname := ofName?_some hkind
      refine ⟨.cons ⟨rfl, ?_⟩ ih.1, ?_⟩
      · cases kind with
        | xmpp => exact .xmpp hname
        | apprise => exact .apprise hname
      · rw [List.zip_cons_cons, List.map_cons, List.map_cons, ih.2]
        cases kind <;> rfl
    · cases hk

/-- The target that is found is built from the record that is found. -/
theorem find?_placed (h : List.Forall₂ Placed ts ps) (hu : (ts.find? fun t => t.id == id) = some u) :
    ∃ slot, (ps.find? fun p => p.1 == id) = some (id, slot) ∧ BuiltFrom u slot := by
  induction h with
  | nil => cases hu
  | @cons t p ts ps hp _ ih =>
    obtain ⟨k, slot⟩ := p
    obtain rfl : k = t.id := hp.id
    by_cases hid : t.id = id
    · rw [List.find?_cons_of_pos (by simpa using hid)] at hu
      cases hu
      exact ⟨slot, by simp [hid], hp.built⟩
    · rw [List.find?_cons_of_neg (by simpa using hid)] at hu
      rw [List.find?_cons_of_neg (by simpa using hid)]
      exact ih hu

end

/-! ## Starting the targets of a configuration -/

namespace StaticRepository

variable {r : StaticRepository} {id : String} {t u : Target}

/-- The records that targets are made of. -/
def enabledTargets (r : StaticRepository) : List Target := r.targets.filter (·.enable)

/-- Whether a record is the last enabled one with an identifier. -/
def LastEnabled (r : StaticRepository) (id : String) (u : Target) : Prop :=
  (u.enable = true ∧ u.id = id) ∧
    ∃ before after, r.targets = before ++ u :: after ∧ ∀ v ∈ after, ¬ (v.enable = true ∧ v.id = id)

theorem lastEnabled_iff : (r.enabledTargets.reverse.find? fun t => t.id == id) = some u ↔ r.LastEnabled id u := by
  rw [enabledTargets, ← List.filter_reverse, List.find?_filter, find?_reverse_some]
  simp only [LastEnabled, decide_eq_true_eq, beq_iff_eq]

theorem target?_some (ht : r.target? id = some t) : t ∈ r.targets ∧ t.id = id :=
  ⟨List.mem_of_find?_eq_some ht, by simpa using List.find?_some ht⟩

theorem mem_enabledTargets : t ∈ r.enabledTargets ↔ t ∈ r.targets ∧ t.enable = true := List.mem_filter

/-- If there is an enabled record with an identifier, there is a last one. -/
theorem exists_lastEnabled (ht : r.target? id = some t) (hon : t.enable = true) : ∃ u, r.LastEnabled id u := by
  obtain ⟨hmem, hid⟩ := target?_some ht
  cases hu : r.enabledTargets.reverse.find? fun t => t.id == id with
  | some u => exact ⟨u, lastEnabled_iff.1 hu⟩
  | none =>
    have hother := List.find?_eq_none.1 hu t (List.mem_reverse.2 (mem_enabledTargets.2 ⟨hmem, hon⟩))
    exact absurd hid (by simpa using hother)

/-- If no identifier stands twice among them, the first record is the last enabled one. -/
theorem LastEnabled.of_nodup (h : r.LastEnabled id u) (hids : (r.enabledTargets.map (·.id)).Nodup)
    (ht : r.target? id = some t) (hon : t.enable = true) : t = u := by
  obtain ⟨⟨hu, hid⟩, before, after, hr, -⟩ := h
  obtain ⟨hmem, htid⟩ := target?_some ht
  have hu' : u ∈ r.enabledTargets := mem_enabledTargets.2 ⟨by simp [hr], hu⟩
  exact List.inj_on_of_nodup_map hids (mem_enabledTargets.2 ⟨hmem, hon⟩) hu' (htid.trans hid.symm)

end StaticRepository

namespace Relay

theorem startTargets_ok {l : Log RelayAsk.Answer} (h : startTargets.Runs l (some (.ok ()))) :
    ∃ ts kinds rest, Registry.kinds (ts.filter (·.enable)) = .ok kinds ∧
      l = ⟨.store .targets, some (.ok ts)⟩ :: ⟨.makeTargets (ts.filter (·.enable)), some ()⟩ :: rest ∧
      (startAll ⟨Registry.ofList kinds⟩).Runs rest (some (.ok ())) := by
  rcases runs_bind h with ⟨-, hr⟩ | ⟨x, l₁, l₂, rfl, h₁, h₂⟩
  · cases hr
  rw [runs_query h₁]
  cases x with
  | error e =>
    obtain ⟨-, hr⟩ := runs_result h₂
    cases hr
  | ok ts =>
    dsimp only at h₂
    split at h₂
    · obtain ⟨-, hr⟩ := runs_result h₂
      cases hr
    · next kinds hkinds =>
      rcases runs_bind h₂ with ⟨-, hr⟩ | ⟨_, l₃, l₄, rfl, h₃, h₄⟩
      · cases hr
      rw [runs_query h₃]
      rcases runs_bind h₄ with ⟨-, hr⟩ | ⟨y, l₅, l₆, rfl, h₅, h₆⟩
      · cases hr
      obtain ⟨rfl, hr⟩ := runs_result h₆
      obtain rfl : y = .ok () := ok_of_mapError (Option.some.inj hr).symm
      exact ⟨ts, kinds, l₅, hkinds, by rw [List.append_nil]; rfl, h₅⟩

/-- A lookup gives the first record, with its arguments. -/
theorem resolved_of_target? {r : StaticRepository} {limit : Duration} {a : Application} {t : Target}
    (ht : r.target? a.target = some t) :
    (Resolver.target limit a).run (m := Id) (fun c => some (r.answer c)) = .ok ⟨t, t.mergeArgs a.targetArgs⟩ := by
  have hanswer : r.answer (.target a.target) = .ok t := by rw [StaticRepository.answer, ht]; rfl
  rcases Resolver.runs_target (runs_logWith (fun c => some (r.answer c)) (Resolver.target limit a)) with
    ⟨-, hr⟩ | ⟨x, hlog, houtcome⟩
  · cases hr
  have hx := Option.some.inj (mem_logWith (hlog ▸ List.mem_singleton.2 rfl))
  rw [hanswer] at hx
  subst hx
  rcases houtcome with ⟨t', ht', hr⟩ | ⟨e, he, -⟩
  · cases ht'
    exact Option.some.inj hr
  · cases he

/-- What delivers to an identifier, and with which arguments: the target on the slot was built from the last enabled
record, and the arguments come from the first record there is. -/
structure Dispatch (r : StaticRepository) (slots : List (String × TargetSlot)) (id : String) (t u : Target) (slot : TargetSlot) : Prop where
  last : r.LastEnabled id u
  placed : (slots.find? fun p => p.1 == id) = some (id, slot)
  built : BuiltFrom u slot
  own : BuiltFrom t slot ↔ t = u
  resolved : ∀ limit a, a.target = id →
    (Resolver.target limit a).run (m := Id) (fun c => some (r.answer c)) = .ok ⟨t, t.mergeArgs a.targetArgs⟩

/-- **Which record a delivery uses.** When all targets of a configuration were started, the target under an identifier
was built from the last enabled record with it, while the arguments come from the first record. If that one is
enabled, the target was built from it exactly if the two are the same, and so they are if no two enabled
records have the same identifier. -/
theorem startTargets_dispatch {r : StaticRepository} {l : Log RelayAsk.Answer} (h : startTargets.Runs l (some (.ok ())))
    (hstore : ∀ c x, ⟨.store c, x⟩ ∈ l → x = some (r.answer c)) :
    ∃ slots rest, Registry.build r.enabledTargets = .ok slots ∧
      l = ⟨.store .targets, some (.ok r.targets)⟩ :: ⟨.makeTargets r.enabledTargets, some ()⟩ :: rest ∧
      (startAll ⟨slots.map fun p => (p.1, p.2.kind)⟩).Runs rest (some (.ok ())) ∧
      ∀ id t, r.target? id = some t → t.enable = true → ∃ u slot, Dispatch r slots id t u slot ∧
        ((r.enabledTargets.map (·.id)).Nodup → BuiltFrom t slot) := by
  obtain ⟨ts, kinds, rest, hkinds, rfl, hrest⟩ := startTargets_ok h
  obtain rfl : ts = r.targets := by
    have hanswer := Option.some.inj (hstore .targets _ List.mem_cons_self)
    exact Except.ok.inj hanswer
  obtain ⟨ps, hbuild, hplaced, rfl⟩ := build_of_kinds hkinds
  refine ⟨_, rest, hbuild, rfl, ?_, fun id t ht hon => ?_⟩
  · rw [Registry.map_ofList]
    exact hrest
  obtain ⟨u, hu⟩ := StaticRepository.exists_lastEnabled ht hon
  have hfound := find?_placed (List.rel_reverse hplaced) (StaticRepository.lastEnabled_iff.2 hu)
  rw [← Registry.find?_ofList] at hfound
  obtain ⟨slot, hslot, hbuilt⟩ := hfound
  have hown : BuiltFrom t slot ↔ t = u := by
    refine ⟨fun h => ?_, fun h => h ▸ hbuilt⟩
    obtain ⟨hkind, hargs⟩ := h.same hbuilt
    obtain ⟨⟨huon, huid⟩, -⟩ := hu
    obtain ⟨-, hid⟩ := StaticRepository.target?_some ht
    cases t
    cases u
    simp_all
  refine ⟨u, slot, ⟨hu, hslot, hbuilt, hown, fun limit a ha => ?_⟩, fun hids => hown.2 (hu.of_nodup hids ht hon)⟩
  exact resolved_of_target? (ha ▸ ht)

/-- Surroundings in which the store has what is configured and everything goes well. -/
def sampleSurroundings (r : StaticRepository) : (q : RelayAsk) → q.Answer
  | .openStore _ | .openQueue _ | .serve _ _ _ => .ok ()
  | .store c => r.answer c
  | .makeTargets _ | .startConsumer _ | .awaitStop | .registry (.count _) | .shutdown .signal | .shutdown .closeStore => ()
  | .registry (.on _ _) => .answered (.ok ())
  | .shutdown (.awaitConsumer _) => .late
  | .shutdown (.stopTargets _) => some (.ok ())

theorem sample_store (r : StaticRepository) (c : RepositoryCall) (x : Option c.Answer)
    (hx : ⟨.store c, x⟩ ∈ startTargets.logWith (sampleSurroundings r)) : x = some (r.answer c) := by
  have hanswer : x = some (sampleSurroundings r (.store c)) := mem_logWith hx
  exact hanswer

/-- A command line notifier under an identifier, by an interpreter of its own. -/
def sampleNotifier (id interpreter : String) (enable : Bool) : Target :=
  { id, enable, kind := "apprise", args := [("apprise", .text "notify"), ("interpreter", .text interpreter)] }

/-- Two targets, and an earlier form of one of them that was disabled. -/
def sampleTidy : StaticRepository where
  targets := [sampleNotifier "a" "interp" true, sampleNotifier "b" "python" true, sampleNotifier "a" "sh" false]

theorem sample_dispatch : (sampleTidy.enabledTargets.map (·.id)).Nodup ∧
    startTargets.Runs (startTargets.logWith (sampleSurroundings sampleTidy)) (some (.ok ())) ∧
    sampleTidy.target? "a" = some (sampleNotifier "a" "interp" true) ∧
    ∃ slots u slot, Registry.build sampleTidy.enabledTargets = .ok slots ∧
      Dispatch sampleTidy slots "a" (sampleNotifier "a" "interp" true) u slot ∧
      BuiltFrom (sampleNotifier "a" "interp" true) slot := by
  have hids : (sampleTidy.enabledTargets.map (·.id)).Nodup := by decide
  have hruns : startTargets.Runs (startTargets.logWith (sampleSurroundings sampleTidy)) (some (.ok ())) :=
    runs_logWith (sampleSurroundings sampleTidy) startTargets
  obtain ⟨slots, -, hbuild, -, -, hdispatch⟩ := startTargets_dispatch hruns (sample_store sampleTidy)
  obtain ⟨u, slot, hu, hown⟩ := hdispatch "a" (sampleNotifier "a" "interp" true) rfl rfl
  exact ⟨hids, hruns, rfl, slots, u, slot, hbuild, hu, hown hids⟩

/-- Two enabled records of one target. -/
def sampleRepeated : StaticRepository where
  targets := [sampleNotifier "a" "interp" true, sampleNotifier "a" "python" true]

/-- The target is built from the second record, and the lookup gives the first one. -/
theorem not_always_own : ¬ ∀ (r : StaticRepository) (l : Log RelayAsk.Answer), startTargets.Runs l (some (.ok ())) →
    (∀ c x, ⟨.store c, x⟩ ∈ l → x = some (r.answer c)) → ∀ id t, r.target? id = some t → t.enable = true →
      ∃ slots slot, Registry.build r.enabledTargets = .ok slots ∧
        (slots.find? fun p => p.1 == id) = some (id, slot) ∧ BuiltFrom t slot := by
  intro h
  have hruns : startTargets.Runs (startTargets.logWith (sampleSurroundings sampleRepeated)) (some (.ok ())) :=
    runs_logWith (sampleSurroundings sampleRepeated) startTargets
  obtain ⟨slots, slot, hbuild, hslot, hbuilt⟩ :=
    h sampleRepeated _ hruns (sample_store sampleRepeated) "a" (sampleNotifier "a" "interp" true) rfl rfl
  have hlast : BuiltFrom (sampleNotifier "a" "python" true) slot := by
    cases hbuild
    cases hslot
    exact .apprise rfl
  have hargs := (hbuilt.same hlast).2
  simp [sampleNotifier] at hargs

end Relay
end Courier
