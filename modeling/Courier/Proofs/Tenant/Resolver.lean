import Courier.Tenant.Resolver
import Courier.Proofs.Procedure
/-
What a lookup comes to. A lookup asks one question; only a record that the store
gave is taken for found, and only what the store said is not there counts as
missing. On the way in, what is found is enabled, unless the request came by the
submission route.
-/

namespace Courier.Resolver

open Procedure

variable {limit : Duration} {c : RepositoryCall} {missing : ResolveError}

/-- What becomes of the answer to a lookup. -/
def found (limit : Duration) (missing : ResolveError) : {c : RepositoryCall} → c.Timely → Except ResolveError c.Result
  | _, some (.ok a) => .ok a
  | _, some (.error .notFound) => .error missing
  | _, some (.error e) => .error (.repository e)
  | _, none => .error (.repository (.timeout limit))

/-- Only what the store said is not there is missing. -/
theorem found_failure {e : RepositoryError} (he : e ≠ .notFound) :
    found limit missing (c := c) (some (.error e)) = .error (.repository e) := by
  cases e with
  | notFound => exact absurd rfl he
  | _ => rfl

theorem found_ok {x : c.Timely} {a : c.Result} (h : found limit missing x = .ok a) : x = some (.ok a) := by
  unfold found at h
  split at h
  · cases h
    rfl
  all_goals cases h

/-- What is missing is what the store said is not there. -/
theorem found_error (hmissing : missing.isNotFound) {x : c.Timely} {e : ResolveError}
    (h : found limit missing x = .error e) :
    e.isNotFound ∧ x = some (.error .notFound) ∨
      e.isNotFound = false ∧ (x = none ∨ ∃ e', e' ≠ .notFound ∧ x = some (.error e')) := by
  unfold found at h
  split at h
  · cases h
  · cases h
    exact .inl ⟨hmissing, rfl⟩
  · next e' hne =>
    cases h
    exact .inr ⟨rfl, .inr ⟨e', hne, rfl⟩⟩
  · cases h
    exact .inr ⟨rfl, .inl rfl⟩

theorem lookup_eq (limit : Duration) (c : RepositoryCall) (missing : ResolveError) :
    lookup limit c missing = .ask c fun x => .result (found limit missing x) := by
  refine congrArg (Procedure.ask c) (funext fun x => ?_)
  match x with
  | none | some (.ok _) => rfl
  | some (.error e) => cases e <;> rfl

theorem runs_lookup {l : Log RepositoryCall.Timely} {r : Option (Except ResolveError c.Result)}
    (h : (lookup limit c missing).Runs l r) :
    l = [⟨c, none⟩] ∧ r = none ∨ ∃ x, l = [⟨c, some x⟩] ∧ r = some (found limit missing x) := by
  rw [lookup_eq] at h
  rcases runs_ask h with h | ⟨x, l', rfl, hdone⟩
  · exact .inl h
  · obtain ⟨rfl, rfl⟩ := runs_result hdone
    exact .inr ⟨x, rfl, rfl⟩

/-- A target that was looked up is the one the store gave, with its arguments. -/
theorem runs_target {a : Application} {l : Log RepositoryCall.Timely} {r : Option (Except ResolveError ResolvedTarget)}
    (h : (target limit a).Runs l r) :
    l = [⟨.target a.target, none⟩] ∧ r = none ∨
      ∃ x, l = [⟨.target a.target, some x⟩] ∧
        ((∃ t, x = some (.ok t) ∧ r = some (.ok ⟨t, t.mergeArgs a.targetArgs⟩)) ∨
          ∃ e, found limit (.targetNotFound a.target) x = .error e ∧ r = some (.error e)) := by
  rcases runs_bind h with ⟨h₁, rfl⟩ | ⟨t, l₁, l₂, rfl, h₁, h₂⟩
  · rcases runs_lookup h₁ with ⟨rfl, -⟩ | ⟨x, -, hx⟩
    · exact .inl ⟨rfl, rfl⟩
    · cases hx
  · rcases runs_lookup h₁ with ⟨-, hx⟩ | ⟨x, rfl, hx⟩
    · cases hx
    cases t with
    | ok t =>
      obtain ⟨rfl, rfl⟩ := runs_result h₂
      exact .inr ⟨x, rfl, .inl ⟨t, found_ok (Option.some.inj hx).symm, rfl⟩⟩
    | error e =>
      obtain ⟨rfl, rfl⟩ := runs_result h₂
      exact .inr ⟨x, rfl, .inr ⟨e, (Option.some.inj hx).symm, rfl⟩⟩

/-- **On the way in, what is found is what the store gave**, and enabled unless it is asked for by the submission route. -/
theorem byToken_ok {token : String} {viaSubmit : Bool} {l : Log RepositoryCall.Timely} {u : User} {a : Application}
    (h : (byToken limit token viaSubmit).Runs l (some (.ok (u, a)))) :
    l = [⟨.userOf token, some (some (.ok u))⟩, ⟨.application u.key token, some (some (.ok a))⟩] ∧
      (viaSubmit = false → u.enable = true ∧ a.enable = true) := by
  rcases runs_bind h with ⟨-, hr⟩ | ⟨user, l₁, l₂, rfl, h₁, h₂⟩
  · cases hr
  rcases runs_lookup h₁ with ⟨-, hr⟩ | ⟨x, rfl, hx⟩
  · cases hr
  cases user with
  | error e =>
    obtain ⟨-, hr⟩ := runs_result h₂
    cases hr
  | ok u' =>
    dsimp only at h₂
    split at h₂
    · obtain ⟨-, hr⟩ := runs_result h₂
      cases hr
    next huser =>
    rcases runs_bind h₂ with ⟨-, hr⟩ | ⟨application, l₃, l₄, rfl, h₃, h₄⟩
    · cases hr
    rcases runs_lookup h₃ with ⟨-, hr⟩ | ⟨y, rfl, hy⟩
    · cases hr
    cases application with
    | error e =>
      obtain ⟨-, hr⟩ := runs_result h₄
      cases hr
    | ok a' =>
      dsimp only at h₄
      split at h₄
      · obtain ⟨-, hr⟩ := runs_result h₄
        cases hr
      next happlication =>
      obtain ⟨rfl, hr⟩ := runs_result h₄
      cases hr
      rw [found_ok (Option.some.inj hx).symm, found_ok (Option.some.inj hy).symm]
      refine ⟨rfl, fun hvia => ?_⟩
      simpa [hvia] using And.intro huser happlication

/-- With a store that answers each question alike, a course goes on with what its lookup comes to. -/
theorem run_lookup {α : Type} (answer : (c : RepositoryCall) → c.Timely) (f : Except ResolveError c.Result → Lookups α) :
    (lookup limit c missing >>= f).run (m := Id) answer = (f (found limit missing (answer c))).run (m := Id) answer := by
  rw [lookup_eq]
  rfl

/-- What a token leads to on the way in, with a store that answers each question alike. -/
theorem run_byToken (limit : Duration) (token : String) (viaSubmit : Bool) (answer : (c : RepositoryCall) → c.Timely) :
    (byToken limit token viaSubmit).run (m := Id) answer =
      match found limit .userNotFound (answer (.userOf token)) with
      | .error e => .error e
      | .ok user =>
        if !user.enable && !viaSubmit then .error .userNotFound
        else
          match found limit .applicationNotFound (answer (.application user.key token)) with
          | .error e => .error e
          | .ok application =>
            if !application.enable && !viaSubmit then .error .applicationNotFound
            else .ok (user, application) := by
  refine (run_lookup answer _).trans ?_
  cases found limit .userNotFound (answer (.userOf token)) with
  | error e => rfl
  | ok user =>
    dsimp only
    split
    · rfl
    · refine (run_lookup answer _).trans ?_
      cases found limit .applicationNotFound (answer (.application (User.key user) token)) with
      | error e => rfl
      | ok application =>
        dsimp only
        split <;> rfl
end Courier.Resolver
