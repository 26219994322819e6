import Mathlib.Data.List.Nodup
import Courier.Proofs.Keyed
import Courier.Proofs.Tenant.Roster
import Courier.Repository.Static
/-
Whose application it is that a token leads to, in a store of tenants that stand in the
configuration. The user of a token is the last record that holds it; its application is
looked for in all records with that user's key, and the first of them that holds the token
gives it. Nothing keeps a key from standing twice, so the two may be different records, and
then the application may be one that the user does not have.
-/

namespace Courier

namespace User

variable {u : User} {token : String}

/-- Whether a record has an application with a token. -/
def Holds (u : User) (token : String) : Prop := ∃ a ∈ u.applications, a.token = token

theorem any_iff_holds : (u.applications.any fun a => a.token == token) = true ↔ u.Holds token := by
  simp [Holds]

theorem application?_none : u.application? token = none ↔ ¬ u.Holds token := by
  simp [application?, Holds]

theorem application?_some {a : Application} (h : u.application? token = some a) : a ∈ u.applications ∧ a.token = token :=
  ⟨List.mem_of_find?_eq_some h, by simpa using List.find?_some h⟩

end User

namespace StaticRepository

open Procedure

variable {r : StaticRepository} {token key : String} {viaSubmit : Bool} {u v : User} {a : Application}

/-! ## The two ways -/

/-- Whether a record is the last one that holds a token. -/
def Owns (r : StaticRepository) (token : String) (u : User) : Prop :=
  u.Holds token ∧ ∃ before after, r.users = before ++ u :: after ∧ ∀ v ∈ after, ¬ v.Holds token

/-- Whether a record is the first one under a key that holds a token, and an application the first with it there. -/
def Offers (r : StaticRepository) (key token : String) (v : User) (a : Application) : Prop :=
  v.key = key ∧ v.application? token = some a ∧
    ∃ before after, r.users = before ++ v :: after ∧ ∀ w ∈ before, w.key = key → ¬ w.Holds token

/-- Whether a token that belongs to a user leads to an application that the user does not have. -/
def Strays (r : StaticRepository) (token : String) (u : User) : Prop :=
  ∃ v a, r.Offers u.key token v a ∧ a ∉ u.applications

theorem user?_none : r.user? token = none ↔ ∀ u ∈ r.users, ¬ u.Holds token := by
  simp [user?, User.Holds]

theorem user?_iff : r.user? token = some u ↔ r.Owns token u := by
  simp only [user?, find?_reverse_some, User.any_iff_holds, Owns]

theorem application?_iff : r.application? key token = some a ↔ ∃ v, r.Offers key token v a := by
  have hfilter (us : List User) : ((us.filter fun u => u.key == key).findSome? fun u => u.application? token) =
      us.findSome? fun u => if u.key = key then u.application? token else none := by
    induction us with
    | nil => rfl
    | cons u us ih => by_cases hu : u.key = key <;> simp [hu, ih, List.findSome?_cons]
  rw [application?, hfilter, List.findSome?_eq_some_iff]
  constructor
  · rintro ⟨before, v, after, hr, hv, hbefore⟩
    split at hv
    · next hkey =>
      refine ⟨v, hkey, hv, before, after, hr, fun w hw hkey => User.application?_none.1 ?_⟩
      rw [← hbefore w hw, if_pos hkey]
    · cases hv
  · rintro ⟨v, hkey, hv, before, after, hr, hbefore⟩
    refine ⟨before, v, after, hr, by rw [if_pos hkey, hv], fun w hw => ?_⟩
    split
    · next hkey => exact User.application?_none.2 (hbefore w hw hkey)
    · rfl

/-- Records that come first are unique. -/
theorem Offers.unique {v' : User} {a' : Application} (h : r.Offers key token v a) (h' : r.Offers key token v' a') : a = a' :=
  Option.some.inj ((application?_iff.2 ⟨v, h⟩).symm.trans (application?_iff.2 ⟨v', h'⟩))

/-- Where a user has a token, some application is found under the user's key. -/
theorem Owns.offers (h : r.Owns token u) : ∃ v a, r.Offers u.key token v a := by
  obtain ⟨hu, before, after, hr, -⟩ := h
  cases ha : r.application? u.key token with
  | some a =>
    obtain ⟨v, hv⟩ := application?_iff.1 ha
    exact ⟨v, a, hv⟩
  | none =>
    simp only [application?, List.findSome?_eq_none_iff, List.mem_filter] at ha
    exact absurd hu (User.application?_none.1 (ha u ⟨by simp [hr], by simp⟩))

/-- If no key stands twice, a user has the application that is found under the user's key. -/
theorem not_strays (hkeys : (r.users.map (·.key)).Nodup) (h : r.Owns token u) : ¬ r.Strays token u := by
  rintro ⟨v, a, ⟨hkey, hv, hmem⟩, hno⟩
  obtain ⟨_, before, after, hr, -⟩ := h
  have hsame : v = u := by
    refine List.inj_on_of_nodup_map hkeys ?_ ?_ hkey
    · obtain ⟨before', after', hr', -⟩ := hmem
      simp [hr']
    · simp [hr]
  exact hno (hsame ▸ (User.application?_some hv).1)

/-! ## What a token leads to -/

/-- The user and the application of a token in this store, which answers at once. -/
def byToken (limit : Duration) (r : StaticRepository) (token : String) (viaSubmit : Bool) :
    Except ResolveError (User × Application) :=
  (Resolver.byToken limit token viaSubmit).run (m := Id) fun c => some (r.answer c)

/-- The ways in which a token leads to something or nothing. -/
inductive Leads (r : StaticRepository) (token : String) (viaSubmit : Bool) : Except ResolveError (User × Application) → Prop
  | nobody (h : ∀ u ∈ r.users, ¬ u.Holds token) : Leads r token viaSubmit (.error .userNotFound)
  | userDisabled {u : User} (h : r.Owns token u) (hvia : viaSubmit = false) (hoff : u.enable = false) :
    Leads r token viaSubmit (.error .userNotFound)
  | applicationDisabled {u v : User} {a : Application} (h : r.Owns token u) (hon : viaSubmit = false → u.enable = true)
    (ha : r.Offers u.key token v a) (hvia : viaSubmit = false) (hoff : a.enable = false) :
    Leads r token viaSubmit (.error .applicationNotFound)
  | found {u v : User} {a : Application} (h : r.Owns token u) (hon : viaSubmit = false → u.enable = true)
    (ha : r.Offers u.key token v a) (hon' : viaSubmit = false → a.enable = true) : Leads r token viaSubmit (.ok (u, a))

theorem found_eq {α : Type} (record : Option α) : some (found record) = Roster.said record := by
  cases record <;> rfl

theorem byToken_leads (limit : Duration) (r : StaticRepository) (token : String) (viaSubmit : Bool) :
    r.Leads token viaSubmit (byToken limit r token viaSubmit) := by
  obtain ⟨x, hx, h⟩ := gives_of_runs (P := fun c x => x = some (r.answer c))
    (runs_logWith (fun c => some (r.answer c)) (Resolver.byToken limit token viaSubmit)) (answered_logWith fun _ => rfl)
  obtain rfl : byToken limit r token viaSubmit = x := Option.some.inj hx
  generalize byToken limit r token viaSubmit = x at h ⊢
  obtain ⟨user, h₁, h₂⟩ := gives_bind.1 h
  have huser := Roster.gives_lookup (c := .userOf token) (fun y hy => hy.trans (found_eq (r.user? token))) h₁
  cases hu : r.user? token with
  | none =>
    obtain rfl : user = .error .userNotFound := by rw [huser, hu]; rfl
    obtain rfl : x = .error .userNotFound := h₂
    exact .nobody (user?_none.1 hu)
  | some u =>
    have howns := user?_iff.1 hu
    obtain rfl : user = .ok u := by rw [huser, hu]; rfl
    dsimp only at h₂
    split at h₂
    · next hoff =>
      obtain rfl : x = .error .userNotFound := h₂
      obtain ⟨hoff, hvia⟩ : u.enable = false ∧ viaSubmit = false := by simpa using hoff
      exact .userDisabled howns hvia hoff
    next hon =>
    have hon : viaSubmit = false → u.enable = true := fun hvia => by simpa [hvia] using hon
    obtain ⟨application, h₃, h₄⟩ := gives_bind.1 h₂
    have happlication := Roster.gives_lookup (c := .application u.key token)
      (fun y hy => hy.trans (found_eq (r.application? u.key token))) h₃
    obtain ⟨v, a, ha⟩ := howns.offers
    obtain rfl : application = .ok a := by rw [happlication, application?_iff.2 ⟨v, ha⟩]; rfl
    dsimp only at h₄
    split at h₄
    · next hoff' =>
      obtain rfl : x = .error .applicationNotFound := h₄
      obtain ⟨hoff', hvia⟩ : a.enable = false ∧ viaSubmit = false := by simpa using hoff'
      exact .applicationDisabled howns hon ha hvia hoff'
    · next hon' =>
      obtain rfl : x = .ok (u, a) := h₄
      exact .found howns hon ha fun hvia => by simpa [hvia] using hon'

theorem Owns.unique {u' : User} (h : r.Owns token u) (h' : r.Owns token u') : u = u' :=
  Option.some.inj ((user?_iff.2 h).symm.trans (user?_iff.2 h'))

/-- **What a token leads to, and when it is the user's own.** The user is the last record that holds the token, and
the application holds it too; it is one of the user's, unless an earlier record with the same key has the
token for another one. No user is found only if nobody holds the token, or if the one who does is
disabled and that matters. -/
theorem byToken_belongs (limit : Duration) (r : StaticRepository) (token : String) (viaSubmit : Bool) :
    (∀ u a, byToken limit r token viaSubmit = .ok (u, a) → r.Owns token u ∧ a.token = token ∧
      (∃ v, r.Offers u.key token v a) ∧ (a ∈ u.applications ↔ ¬ r.Strays token u)) ∧
    (byToken limit r token viaSubmit = .error .userNotFound ↔
      (∀ u ∈ r.users, ¬ u.Holds token) ∨ ∃ u, r.Owns token u ∧ viaSubmit = false ∧ u.enable = false) ∧
    ((r.users.map (·.key)).Nodup → ∀ u a, byToken limit r token viaSubmit = .ok (u, a) → a ∈ u.applications) := by
  have hleads := byToken_leads limit r token viaSubmit
  generalize byToken limit r token viaSubmit = x at hleads
  have hfound : ∀ u a, x = .ok (u, a) → r.Owns token u ∧ a.token = token ∧ (∃ v, r.Offers u.key token v a) ∧
      (a ∈ u.applications ↔ ¬ r.Strays token u) := by
    rintro u a rfl
    cases hleads with
    | @found _ v _ howns _ ha _ =>
      refine ⟨howns, (User.application?_some ha.2.1).2, ⟨v, ha⟩, fun hmem => ?_, fun hno => ?_⟩
      · rintro ⟨v', a', ha', hout⟩
        exact hout (ha.unique ha' ▸ hmem)
      · by_contra hout
        exact hno ⟨v, a, ha, hout⟩
  refine ⟨hfound, ⟨?_, ?_⟩, fun hkeys u a hx => ?_⟩
  · rintro rfl
    cases hleads with
    | nobody h => exact .inl h
    | userDisabled h hvia hoff => exact .inr ⟨_, h, hvia, hoff⟩
  · intro hnone
    cases hleads with
    | nobody | userDisabled => rfl
    | applicationDisabled h hon | found h hon =>
      rcases hnone with hnobody | ⟨u', h', hvia, hoff⟩
      · obtain ⟨hu, before, after, hr, -⟩ := h
        exact absurd hu (hnobody _ (by simp [hr]))
      · rw [← h.unique h', hon hvia] at hoff
        cases hoff
  · obtain ⟨howns, -, -, hbelongs⟩ := hfound u a hx
    exact hbelongs.2 (not_strays hkeys howns)

/-- Two records of one user, the first one disabled; both have a token, for different applications. -/
def sampleTwice : StaticRepository where
  users :=
    [{ key := "k", enable := false, applications := [{ token := "tok", name := "first", target := "t1" }] },
      { key := "k", applications := [{ token := "tok", name := "second", target := "t2" }] }]

/-- The same with keys of their own. -/
def sampleApart : StaticRepository where
  users :=
    [{ key := "j", enable := false, applications := [{ token := "old", name := "first", target := "t1" }] },
      { key := "k", applications := [{ token := "tok", name := "second", target := "t2" }] }]

theorem sample_belongs : (sampleApart.users.map (·.key)).Nodup ∧
    ∃ u a, byToken Resolver.defaultLimit sampleApart "tok" false = .ok (u, a) ∧ a.name = "second" ∧ a.token = "tok" ∧
      a ∈ u.applications := by
  obtain ⟨hfound, -, hbelongs⟩ := byToken_belongs Resolver.defaultLimit sampleApart "tok" false
  have hkeys : (sampleApart.users.map (·.key)).Nodup := by decide
  have hx : byToken Resolver.defaultLimit sampleApart "tok" false =
      .ok ({ key := "k", applications := [{ token := "tok", name := "second", target := "t2" }] },
        { token := "tok", name := "second", target := "t2" }) := rfl
  exact ⟨hkeys, _, _, hx, rfl, (hfound _ _ hx).2.1, hbelongs hkeys _ _ hx⟩

/-- The token of an enabled record leads to the application of the disabled one. -/
theorem not_always_belongs : ¬ ∀ (limit : Duration) (r : StaticRepository) (token : String) (viaSubmit : Bool),
    (∀ u a, byToken limit r token viaSubmit = .ok (u, a) → a ∈ u.applications ∧ a.token = token) ∧
    (byToken limit r token viaSubmit = .error .userNotFound →
      (∀ u ∈ r.users, ¬ u.Holds token) ∨ ∃ u, r.Owns token u ∧ viaSubmit = false ∧ u.enable = false) := by
  intro h
  have hx : byToken Resolver.defaultLimit sampleTwice "tok" false =
      .ok ({ key := "k", applications := [{ token := "tok", name := "second", target := "t2" }] },
        { token := "tok", name := "first", target := "t1" }) := rfl
  have hmem := ((h Resolver.defaultLimit sampleTwice "tok" false).1 _ _ hx).1
  have hname := congrArg Application.name (List.mem_singleton.1 hmem)
  exact absurd hname (by decide)

end StaticRepository
end Courier
