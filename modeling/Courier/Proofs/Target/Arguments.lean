import Courier.Proofs.Json.Canonical
import Courier.Tenant
/-
The arguments that a delivery is made with: those of the target, and over them what the
application gives. What it gives is read in two ways, and which one it is depends on the
arguments themselves: if an object stands under the identifier of the target, it is that
object and nothing beside it; if not, it is all there is.
-/

namespace Courier.Target

open Json (Object Value)

variable {t : Target} {appArgs given : TargetArgs}

/-- What an application gives for a target. -/
inductive Given (t : Target) (appArgs : TargetArgs) : TargetArgs → Prop
  /-- The object under the identifier of the target. -/
  | own {own : Object} (h : Object.get? appArgs t.id = some (.object own)) : Given t appArgs own
  /-- All of it, if no object stands there. -/
  | all (h : ∀ own, Object.get? appArgs t.id ≠ some (.object own)) : Given t appArgs appArgs

/-- What becomes of each key when some arguments are put over those of a target. -/
structure Merged (t : Target) (given merged : TargetArgs) : Prop where
  holds : ∀ k, Object.contains merged k ↔ Object.contains given k ∨ Object.contains t.args k
  taken : ∀ k v, Object.get? given k = some v → Object.get? merged k = some v
  kept : ∀ k, Object.get? given k = none → Object.get? merged k = Object.get? t.args k

theorem given_iff : t.Given appArgs given ↔ given = t.argsFor appArgs := by
  unfold argsFor
  split
  · next own hown =>
    constructor
    · intro h
      cases h with
      | own h =>
        cases hown.symm.trans h
        rfl
      | all h => exact absurd hown (h own)
    · rintro rfl
      exact .own hown
  · next hnone =>
    constructor
    · intro h
      cases h with
      | own h => exact absurd h (hnone given)
      | all _ => rfl
    · rintro rfl
      exact .all hnone

theorem Given.canonical (h : t.Given appArgs given) (happ : Object.Canonical appArgs) : Object.Canonical given := by
  cases h with
  | own h => exact happ.get? h
  | all _ => exact happ

theorem merged_overlay (h : Object.Ordered given) : t.Merged given (Object.overlay t.args given) where
  holds k := by simp only [Object.contains, Object.get?_overlay h, Option.isSome_or, Bool.or_eq_true]
  taken k v hv := by rw [Object.get?_overlay h, hv, Option.some_or]
  kept k hk := by rw [Object.get?_overlay h, hk, Option.none_or]

/-- **What the application gives stands over what the target has, key by key**, and nothing else comes in: with
an object of its own, a target gets nothing of what the application has for others. Done again with the
same application, it changes nothing. -/
theorem mergeArgs_merged (hargs : Object.Canonical t.args) (happ : Object.Canonical appArgs) :
    (∃ given, (∀ g, t.Given appArgs g ↔ g = given) ∧ t.Merged given (t.mergeArgs appArgs)) ∧
      (∀ own k, Object.get? appArgs t.id = some (.object own) → Object.get? own k = none →
        Object.get? (t.mergeArgs appArgs) k = Object.get? t.args k) ∧
      Object.Canonical (t.mergeArgs appArgs) ∧
      { t with args := t.mergeArgs appArgs }.mergeArgs appArgs = t.mergeArgs appArgs := by
  have hgiven := given_iff.2 (rfl : t.argsFor appArgs = t.argsFor appArgs)
  have hcanonical := hgiven.canonical happ
  have hmerged : t.Merged (t.argsFor appArgs) (t.mergeArgs appArgs) := merged_overlay hcanonical.ordered
  refine ⟨⟨_, fun _ => given_iff, hmerged⟩, fun own k hown hk => ?_, hargs.overlay hcanonical.members,
    Object.overlay_twice hargs.ordered hcanonical.ordered⟩
  rw [← given_iff.1 (.own hown)] at hmerged
  exact hmerged.kept k hk

/-- A target with two arguments of its own. -/
def sampleTarget : Target :=
  { id := "t1", kind := "xmpp", args := [("destination", .text "ops@example.org"), ("server", .text "xmpp.example.org")] }

/-- Arguments for two targets, and one for none of them. -/
def sampleArgs : TargetArgs :=
  [("server", .text "elsewhere.example.org"), ("t1", .object [("destination", .text "me@example.org")]),
    ("t2", .object [("destination", .text "you@example.org")])]

/-- Of the arguments for several targets, those for this one are taken, and those that stand beside them are not. -/
theorem sample_merged : Object.Canonical sampleTarget.args ∧ Object.Canonical sampleArgs ∧
    sampleTarget.mergeArgs sampleArgs =
      [("destination", .text "me@example.org"), ("server", .text "xmpp.example.org")] ∧
    (∃ given, (∀ g, sampleTarget.Given sampleArgs g ↔ g = given) ∧
      sampleTarget.Merged given (sampleTarget.mergeArgs sampleArgs)) ∧
    { sampleTarget with args := sampleTarget.mergeArgs sampleArgs }.mergeArgs sampleArgs =
      sampleTarget.mergeArgs sampleArgs := by
  have hargs : Object.Canonical sampleTarget.args := by
    refine .object (by decide) ?_
    simp only [sampleTarget, List.forall_mem_cons]
    exact ⟨.text _, .text _, by simp⟩
  have hown (address : String) : Object.Canonical [("destination", .text address)] :=
    .object (List.pairwise_singleton _ _) fun m hm => by
      rw [List.mem_singleton.1 hm]
      exact .text address
  have happ : Object.Canonical sampleArgs := by
    refine .object (by decide) ?_
    simp only [sampleArgs, List.forall_mem_cons]
    exact ⟨.text _, hown _, hown _, by simp⟩
  obtain ⟨hgiven, -, -, htwice⟩ := mergeArgs_merged hargs happ
  exact ⟨hargs, happ, rfl, hgiven, htwice⟩

end Courier.Target
