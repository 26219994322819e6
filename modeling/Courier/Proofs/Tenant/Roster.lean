import Courier.Proofs.Tenant.Resolver
/-
Lookups in a store that answers. A store has some users and some applications, and
says of all others that they are not there. A lookup by token comes to its end then,
and what can go wrong is one thing only: the store lacks what the token leads to, or,
but for the submission route, has it disabled.
-/

namespace Courier

/-- What a store has: users by token, and applications by user and token. -/
structure Roster where
  user : String → Option User
  application : String → String → Option Application

namespace Roster

open Procedure

/-- What is said in time of a record that is there or not. -/
def said {α : Type} (record : Option α) : Option (Except RepositoryError α) := some (record.elim (.error .notFound) .ok)

/-- Whether an answer is the one of a store that has these users and applications. -/
def Answers (known : Roster) : (c : RepositoryCall) → c.Timely → Prop
  | .userOf token, x => x = said (known.user token)
  | .application key token, x => x = said (known.application key token)
  | .targets, _ | .target _, _ | .increment _ _, _ | .saveInput _ _, _ | .health, _ => True

/-- The ways in which a token leads to nothing. -/
inductive Lacks (known : Roster) (viaSubmit : Bool) (token : String) : Prop
  | user (hu : known.user token = none)
  | userDisabled {u : User} (hu : known.user token = some u) (hvia : viaSubmit = false) (hoff : u.enable = false)
  | application {u : User} (hu : known.user token = some u) (ha : known.application u.key token = none)
  | applicationDisabled {u : User} {a : Application} (hu : known.user token = some u)
    (ha : known.application u.key token = some a) (hvia : viaSubmit = false) (hoff : a.enable = false)

variable {known : Roster} {limit : Duration} {missing : ResolveError}

theorem found_said {c : RepositoryCall} {record : Option c.Result} :
    Resolver.found limit missing (c := c) (said record) = record.elim (.error missing) .ok := by
  cases record <;> rfl

/-- A lookup of a record finds it, or that it is missing. -/
theorem gives_lookup {c : RepositoryCall} {record : Option c.Result} {P : (c : RepositoryCall) → c.Timely → Prop}
    {x : Except ResolveError c.Result} (hc : ∀ y, P c y → y = said record)
    (h : (Resolver.lookup limit c missing).Gives P x) : x = record.elim (.error missing) .ok := by
  rw [Resolver.lookup_eq] at h
  obtain ⟨y, hy, rfl⟩ := h
  rw [hc y hy, found_said]

/-- Nothing is lacking of a token with a user and an application, both enabled where that matters. -/
theorem not_lacks {viaSubmit : Bool} {token : String} {u : User} {a : Application} (hu : known.user token = some u)
    (ha : known.application u.key token = some a) (hon : viaSubmit = false → u.enable = true ∧ a.enable = true) :
    ¬ known.Lacks viaSubmit token := by
  intro hlacks
  cases hlacks with
  | user hu' => cases hu.symm.trans hu'
  | userDisabled hu' hvia hoff =>
    cases hu.symm.trans hu'
    exact absurd (hon hvia).1 (by simp [hoff])
  | application hu' ha' =>
    cases hu.symm.trans hu'
    cases ha.symm.trans ha'
  | applicationDisabled hu' ha' hvia hoff =>
    cases hu.symm.trans hu'
    cases ha.symm.trans ha'
    exact absurd (hon hvia).2 (by simp [hoff])

/-- **A token leads to a user and an application, or the store lacks one of them**, and then the lookup says so. -/
theorem gives_byToken {token : String} {viaSubmit : Bool} {x : Except ResolveError (User × Application)}
    (h : (Resolver.byToken limit token viaSubmit).Gives known.Answers x) :
    (∃ found, x = .ok found) ∧ ¬ known.Lacks viaSubmit token ∨
      (∃ e, x = .error e ∧ e.isNotFound) ∧ known.Lacks viaSubmit token := by
  obtain ⟨user, h₁, h₂⟩ := gives_bind.1 h
  have huser := gives_lookup (c := .userOf token) (fun _ hy => hy) h₁
  cases hu : known.user token with
  | none =>
    obtain rfl : user = .error .userNotFound := by rw [huser, hu]; rfl
    obtain rfl : x = .error .userNotFound := h₂
    exact .inr ⟨⟨_, rfl, rfl⟩, .user hu⟩
  | some u =>
    obtain rfl : user = .ok u := by rw [huser, hu]; rfl
    dsimp only at h₂
    split at h₂
    · next hoff =>
      obtain rfl : x = .error .userNotFound := h₂
      obtain ⟨hoff, hvia⟩ : u.enable = false ∧ viaSubmit = false := by simpa using hoff
      exact .inr ⟨⟨_, rfl, rfl⟩, .userDisabled hu hvia hoff⟩
    next hon =>
    obtain ⟨application, h₃, h₄⟩ := gives_bind.1 h₂
    have happlication := gives_lookup (c := .application u.key token) (fun _ hy => hy) h₃
    cases ha : known.application u.key token with
    | none =>
      obtain rfl : application = .error .applicationNotFound := by rw [happlication, ha]; rfl
      obtain rfl : x = .error .applicationNotFound := h₄
      exact .inr ⟨⟨_, rfl, rfl⟩, .application hu ha⟩
    | some a =>
      obtain rfl : application = .ok a := by rw [happlication, ha]; rfl
      dsimp only at h₄
      split at h₄
      · next hoff' =>
        obtain rfl : x = .error .applicationNotFound := h₄
        obtain ⟨hoff', hvia⟩ : a.enable = false ∧ viaSubmit = false := by simpa using hoff'
        exact .inr ⟨⟨_, rfl, rfl⟩, .applicationDisabled hu ha hvia hoff'⟩
      · next hon' =>
        obtain rfl : x = .ok (u, a) := h₄
        refine .inl ⟨⟨_, rfl⟩, not_lacks hu ha fun hvia => ?_⟩
        simpa [hvia] using And.intro hon hon'

end Roster
end Courier
