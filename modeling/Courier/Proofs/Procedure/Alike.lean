import Courier.Proofs.Procedure
/-
Two courses of action seen by somebody who does not see all that is asked. Courses are
alike if they put the same questions that are seen, in the same order, and go on alike
after answers that look the same; what is not seen may be asked by one of them alone,
and must not matter, whatever the answer is.

Two runs of courses that are alike look the same if their surroundings do: if what looks
the same so far is answered in the same way.
-/

namespace Courier.Procedure

variable {Q Q' O O' : Type} {A : Q → Type} {A' : Q' → Type} {B : O → Type} {B' : O' → Type} {α α' β β' : Type}

/-- How questions look, and their answers with them. Some questions are not seen at all. -/
abbrev View (A : Q → Type) (B : O → Type) : Type := (q : Q) → Option ((o : O) × (A q → B o))

namespace Log

/-- What is seen of a log. -/
def seen (see : View A B) (l : Log A) : Log B := l.filterMap fun x => (see x.1).map fun s => ⟨s.1, x.2.map s.2⟩

/-- Whether all that is not seen was answered. -/
def Attended (see : View A B) (l : Log A) : Prop := ∀ x ∈ l, see x.1 = none → x.2.isSome

/-- Whether two logs have the same answer to the same question, as long as they did before. -/
def Agree (l l' : Log B) : Prop :=
  ∀ before q x x' after after', l = before ++ ⟨q, x⟩ :: after → l' = before ++ ⟨q, x'⟩ :: after' → x = x'

variable {see : View A B} {l l' : Log A} {v v' : Log B}

theorem seen_unseen {q : Q} (hq : see q = none) (x : Option (A q)) : seen see (⟨q, x⟩ :: l) = seen see l := by
  simp only [seen, List.filterMap_cons, hq, Option.map_none]

theorem seen_cons {q : Q} {o : O} {f : A q → B o} (hq : see q = some ⟨o, f⟩) (x : Option (A q)) :
    seen see (⟨q, x⟩ :: l) = ⟨o, x.map f⟩ :: seen see l := by
  simp only [seen, List.filterMap_cons, hq, Option.map_some]

theorem Attended.tail {y : (q : Q) × Option (A q)} (h : Attended see (y :: l)) : Attended see l :=
  fun x hx => h x (List.mem_cons_of_mem _ hx)

theorem Agree.head {q : O} {x x' : Option (B q)} (h : Agree (⟨q, x⟩ :: v) (⟨q, x'⟩ :: v')) : x = x' :=
  h [] q x x' v v' rfl rfl

theorem Agree.tail {y : (q : O) × Option (B q)} (h : Agree (y :: v) (y :: v')) : Agree v v' := by
  intro before q x x' after after' hv hv'
  refine h (y :: before) q x x' after after' ?_ ?_
  · rw [hv, List.cons_append]
  · rw [hv', List.cons_append]

/-- Logs in which each question has its own answer agree. -/
theorem agree_of_answers {answer : (q : O) → Option (B q)} (hv : ∀ q x, ⟨q, x⟩ ∈ v → x = answer q)
    (hv' : ∀ q x, ⟨q, x⟩ ∈ v' → x = answer q) : Agree v v' := by
  rintro before q x x' after after' rfl rfl
  rw [hv q x (List.mem_append_right _ List.mem_cons_self), hv' q x' (List.mem_append_right _ List.mem_cons_self)]

end Log

/-- One course goes one way only in surroundings that answer alike. -/
theorem runs_unique {p : Procedure Q A α} {l l' : Log A} {r r' : Option α} (hl : p.Runs l r) (hl' : p.Runs l' r')
    (hagree : l.Agree l') : l = l' ∧ r = r' := by
  induction p generalizing l l' with
  | result a =>
    obtain ⟨rfl, rfl⟩ := runs_result hl
    obtain ⟨rfl, rfl⟩ := runs_result hl'
    exact ⟨rfl, rfl⟩
  | ask q next ih =>
    rcases runs_ask hl with ⟨rfl, rfl⟩ | ⟨a, l₁, rfl, hnext⟩ <;>
      rcases runs_ask hl' with ⟨rfl, rfl⟩ | ⟨a', l₁', rfl, hnext'⟩ <;> have hsame := hagree.head
    · exact ⟨rfl, rfl⟩
    · cases hsame
    · cases hsame
    · cases hsame
      obtain ⟨rfl, rfl⟩ := ih a hnext hnext' hagree.tail
      exact ⟨rfl, rfl⟩

/-- Courses that are seen to go alike, and that end with results that fit together. -/
inductive Alike (see : View A B) (fit : α → α' → Prop) : Procedure Q A α → Procedure Q A α' → Prop
  | result {a : α} {a' : α'} (h : fit a a') : Alike see fit (.result a) (.result a')
  | left {q : Q} {next : A q → Procedure Q A α} {p' : Procedure Q A α'} (hq : see q = none)
    (h : ∀ a, Alike see fit (next a) p') : Alike see fit (.ask q next) p'
  | right {p : Procedure Q A α} {q : Q} {next : A q → Procedure Q A α'} (hq : see q = none)
    (h : ∀ a, Alike see fit p (next a)) : Alike see fit p (.ask q next)
  | both {q q' : Q} {next : A q → Procedure Q A α} {next' : A q' → Procedure Q A α'} {o : O} {f : A q → B o}
    {f' : A q' → B o} (hq : see q = some ⟨o, f⟩) (hq' : see q' = some ⟨o, f'⟩)
    (h : ∀ a a', f a = f' a' → Alike see fit (next a) (next' a')) : Alike see fit (.ask q next) (.ask q' next')

namespace Alike

variable {see : View A B} {fit : α → α' → Prop} {p : Procedure Q A α} {p' : Procedure Q A α'}

/-- **Courses that are alike look alike in surroundings that do**, and come to the same. -/
theorem runs (h : Alike see fit p p') {l l' : Log A} {r : Option α} {r' : Option α'} (hl : p.Runs l r) (hl' : p'.Runs l' r')
    (hattended : l.Attended see) (hattended' : l'.Attended see) (hagree : (l.seen see).Agree (l'.seen see)) :
    l.seen see = l'.seen see ∧ Option.Rel fit r r' := by
  induction h generalizing l l' with
  | result hfit =>
    obtain ⟨rfl, rfl⟩ := runs_result hl
    obtain ⟨rfl, rfl⟩ := runs_result hl'
    exact ⟨rfl, .some hfit⟩
  | left hq _ ih =>
    rcases runs_ask hl with ⟨rfl, -⟩ | ⟨a, l₁, rfl, hnext⟩
    · cases hattended _ List.mem_cons_self hq
    · rw [Log.seen_unseen hq] at hagree ⊢
      exact ih a hnext hl' hattended.tail hattended' hagree
  | right hq _ ih =>
    rcases runs_ask hl' with ⟨rfl, -⟩ | ⟨a, l₁, rfl, hnext⟩
    · cases hattended' _ List.mem_cons_self hq
    · rw [Log.seen_unseen hq] at hagree ⊢
      exact ih a hl hnext hattended hattended'.tail hagree
  | both hq hq' _ ih =>
    rcases runs_ask hl with ⟨rfl, rfl⟩ | ⟨a, l₁, rfl, hnext⟩ <;>
      rcases runs_ask hl' with ⟨rfl, rfl⟩ | ⟨a', l₁', rfl, hnext'⟩ <;>
        rw [Log.seen_cons hq, Log.seen_cons hq'] at hagree ⊢ <;>
          have hsame := hagree.head
    · exact ⟨rfl, .none⟩
    · cases hsame
    · cases hsame
    · have hlook := Option.some.inj hsame
      simp only [Option.map_some, hlook] at hagree ⊢
      obtain ⟨hseen, hfit⟩ := ih a a' hlook hnext hnext' hattended.tail hattended'.tail hagree.tail
      exact ⟨by rw [hseen], hfit⟩

/-- A course that is seen as it is is like itself. -/
theorem refl {see : View A A} {p : Procedure Q A α} (h : p.Only fun q => see q = some ⟨q, id⟩) : Alike see Eq p p := by
  induction p with
  | result a => exact .result rfl
  | ask q next ih =>
    refine .both h.1 h.1 fun a a' ha => ?_
    obtain rfl : a = a' := ha
    exact ih a (h.2 a)

/-- A first part that is not seen does not matter. -/
theorem bind_left {p : Procedure Q A β} {k : β → Procedure Q A α} (hp : p.Only fun q => see q = none)
    (h : ∀ b, Alike see fit (k b) p') : Alike see fit (p.bind k) p' := by
  induction p with
  | result b => exact h b
  | ask q next ih => exact .left hp.1 fun a => ih a (hp.2 a)

theorem bind_right {p' : Procedure Q A β} {k : β → Procedure Q A α'} (hp : p'.Only fun q => see q = none)
    (h : ∀ b, Alike see fit p (k b)) : Alike see fit p (p'.bind k) := by
  induction p' with
  | result b => exact h b
  | ask q next ih => exact .right hp.1 fun a => ih a (hp.2 a)

/-- Courses of parts that are alike are alike. -/
theorem bind {fit' : β → β' → Prop} {k : α → Procedure Q A β} {k' : α' → Procedure Q A β'} (h : Alike see fit p p')
    (hk : ∀ a a', fit a a' → Alike see fit' (k a) (k' a')) : Alike see fit' (p.bind k) (p'.bind k') := by
  induction h with
  | result hfit => exact hk _ _ hfit
  | left hq _ ih => exact .left hq ih
  | right hq _ ih => exact .right hq ih
  | both hq hq' _ ih => exact .both hq hq' ih

/-- Courses that are alike are alike in other words, if these look as before. -/
theorem through {see' : View A' B'} {answer : (q : Q) → Procedure Q' A' (A q)}
    (hunseen : ∀ q, see q = none → (answer q).Only fun q' => see' q' = none)
    (hseen : ∀ q q' o f f', see q = some ⟨o, f⟩ → see q' = some ⟨o, f'⟩ →
      Alike see' (fun a a' => f a = f' a') (answer q) (answer q'))
    (h : Alike see fit p p') : Alike see' fit (p.through answer) (p'.through answer) := by
  induction h with
  | result hfit => exact .result hfit
  | left hq _ ih => exact bind_left (hunseen _ hq) ih
  | right hq _ ih => exact bind_right (hunseen _ hq) ih
  | both hq hq' _ ih => exact (hseen _ _ _ _ _ hq hq').bind ih

/-- The same when some questions are not seen, and all others as they are. -/
theorem through_hidden {see : View A A} {see' : View A' B'} {answer : (q : Q) → Procedure Q' A' (A q)}
    (hanswer : ∀ q, (see q = none ∧ (answer q).Only fun q' => see' q' = none) ∨
      (see q = some ⟨q, id⟩ ∧ Alike see' Eq (answer q) (answer q)))
    (h : Alike see fit p p') : Alike see' fit (p.through answer) (p'.through answer) := by
  refine h.through (fun q hq => ?_) fun q q' o f f' hq hq' => ?_
  · rcases hanswer q with ⟨-, honly⟩ | ⟨hsome, -⟩
    · exact honly
    · rw [hsome] at hq
      cases hq
  · rcases hanswer q with ⟨hnone, -⟩ | ⟨hsome, halike⟩
    · rw [hnone] at hq
      cases hq
    rcases hanswer q' with ⟨hnone, -⟩ | ⟨hsome', -⟩
    · rw [hnone] at hq'
      cases hq'
    rw [hsome] at hq
    rw [hsome'] at hq'
    cases hq
    cases hq'
    exact halike

/-- Courses that are alike are alike when all questions are put in other words. -/
theorem renamed {B B' : Q' → Type} {f : Q → Q'} {see : View (fun q => B (f q)) fun q => B' (f q)} {see' : View B B'}
    {p : Procedure Q (fun q => B (f q)) α} {p' : Procedure Q (fun q => B (f q)) α'}
    (hsee : ∀ q, see' (f q) = (see q).map fun s => ⟨f s.1, s.2⟩) (h : Alike see fit p p') :
    Alike see' fit (p.through fun q => query (f q)) (p'.through fun q => query (f q)) := by
  have hunseen {q : Q} (hq : see q = none) : see' (f q) = none := by rw [hsee, hq, Option.map_none]
  have hseen {q : Q} {o : Q} {g : B (f q) → B' (f o)} (hq : see q = some ⟨o, g⟩) : see' (f q) = some ⟨f o, g⟩ := by
    rw [hsee, hq, Option.map_some]
  refine h.through (fun q hq => ⟨hunseen hq, fun _ => trivial⟩) fun q q' o g g' hq hq' => ?_
  exact .both (hseen hq) (hseen hq') fun a a' ha => .result ha

end Alike

/-- Two runs of a course that differ in what is not seen alone. -/
structure Twins (see : View A B) (p : Procedure Q A α) (l l' : Log A) (r r' : Option α) : Prop where
  runs : p.Runs l r
  runs' : p.Runs l' r'
  attended : l.Attended see
  attended' : l'.Attended see
  agree : (l.seen see).Agree (l'.seen see)

variable {see : View A B} {p : Procedure Q A α} {l l' : Log A} {r r' : Option α}

/-- If a course is like itself, such runs are seen to be the same. -/
theorem Twins.same (h : Twins see p l l' r r') (halike : Alike see Eq p p) : l.seen see = l'.seen see ∧ r = r' := by
  obtain ⟨hseen, hfit⟩ := halike.runs h.runs h.runs' h.attended h.attended' h.agree
  refine ⟨hseen, ?_⟩
  cases hfit with
  | some he => rw [he]
  | none => rfl

/-- Runs with all questions answered differ in what is not seen if the answers do. -/
theorem twins_logWith {answer answer' : (q : Q) → A q} {shown : (o : O) → B o}
    (hanswer : ∀ q o f, see q = some ⟨o, f⟩ → f (answer q) = shown o)
    (hanswer' : ∀ q o f, see q = some ⟨o, f⟩ → f (answer' q) = shown o) (p : Procedure Q A α) :
    Twins see p (p.logWith answer) (p.logWith answer') (some (p.run (m := Id) answer)) (some (p.run (m := Id) answer')) := by
  have attended (answer : (q : Q) → A q) : (p.logWith answer).Attended see := by
    rintro ⟨q, x⟩ hx -
    rw [mem_logWith hx]
    rfl
  have answered {answer : (q : Q) → A q} (h : ∀ q o f, see q = some ⟨o, f⟩ → f (answer q) = shown o) :
      ∀ o x, ⟨o, x⟩ ∈ (p.logWith answer).seen see → x = some (shown o) := by
    intro o x hx
    obtain ⟨⟨q, y⟩, hy, he⟩ := List.mem_filterMap.1 hx
    obtain ⟨⟨o', f⟩, hsee, he⟩ := Option.map_eq_some_iff.1 he
    cases he
    rw [mem_logWith hy]
    exact congrArg some (h q o' f hsee)
  exact ⟨runs_logWith answer p, runs_logWith answer' p, attended answer, attended answer',
    Log.agree_of_answers (answered hanswer) (answered hanswer')⟩

end Courier.Procedure
