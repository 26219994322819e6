import Courier.Procedure
/-
Runs of a course of action. What a run leaves behind is its log: the questions
in the order in which they were asked, with their answers. A run that is done has
a result; one that waits for an answer that does not come has none, and its log
ends with the open question. A course may be left waiting at any of its questions,
so what is true of all its runs is true at any time.
-/

namespace Courier.Procedure

/-- Questions in their order, with answers. -/
abbrev Log {Q : Type} (A : Q → Type) : Type := List ((q : Q) × Option (A q))

variable {Q R : Type} {A : Q → Type} {B : R → Type} {α β : Type}

/-- What can come of a course of action. -/
inductive Runs : Procedure Q A α → Log A → Option α → Prop
  | result (a : α) : Runs (.result a) [] (some a)
  | waits (q : Q) (next : A q → Procedure Q A α) : Runs (.ask q next) [⟨q, none⟩] none
  | answered {q : Q} {next : A q → Procedure Q A α} {l : Log A} {r : Option α} (a : A q) (h : Runs (next a) l r) :
    Runs (.ask q next) (⟨q, some a⟩ :: l) r

variable {p : Procedure Q A α} {l : Log A} {r : Option α}

theorem runs_result {a : α} (h : (result a : Procedure Q A α).Runs l r) : l = [] ∧ r = some a := by
  cases h
  exact ⟨rfl, rfl⟩

theorem runs_ask {q : Q} {next : A q → Procedure Q A α} (h : (ask q next).Runs l r) :
    l = [⟨q, none⟩] ∧ r = none ∨ ∃ a l', l = ⟨q, some a⟩ :: l' ∧ (next a).Runs l' r := by
  cases h with
  | waits => exact .inl ⟨rfl, rfl⟩
  | answered a h => exact .inr ⟨a, _, rfl, h⟩

theorem runs_query {q : Q} {l : Log A} {r : Option (A q)} (h : (query q).Runs l r) : l = [⟨q, r⟩] := by
  rcases runs_ask h with ⟨rfl, rfl⟩ | ⟨a, l', rfl, hnext⟩
  · rfl
  · obtain ⟨rfl, rfl⟩ := runs_result hnext
    rfl

/-- A course of two parts waits in the first one, or comes to the second one with the result of the first. -/
theorem runs_bind {f : α → Procedure Q A β} {r : Option β} (h : (p.bind f).Runs l r) :
    p.Runs l none ∧ r = none ∨ ∃ a l₁ l₂, l = l₁ ++ l₂ ∧ p.Runs l₁ (some a) ∧ (f a).Runs l₂ r := by
  induction p generalizing l with
  | result a => exact .inr ⟨a, [], l, rfl, .result a, h⟩
  | ask q next ih =>
    rcases runs_ask h with ⟨rfl, rfl⟩ | ⟨a, l', rfl, hnext⟩
    · exact .inl ⟨.waits q next, rfl⟩
    · rcases ih a hnext with ⟨h₁, rfl⟩ | ⟨b, l₁, l₂, rfl, h₁, h₂⟩
      · exact .inl ⟨.answered a h₁, rfl⟩
      · exact .inr ⟨b, ⟨q, some a⟩ :: l₁, l₂, rfl, .answered a h₁, h₂⟩

/-- Whether a course asks only some questions, whatever is answered. -/
def Only (P : Q → Prop) : Procedure Q A α → Prop
  | .result _ => True
  | .ask q next => P q ∧ ∀ a, (next a).Only P

theorem Only.of_all {P : Q → Prop} (h : ∀ q, P q) : p.Only P := by
  induction p with
  | result a => trivial
  | ask q next ih => exact ⟨h q, ih⟩

theorem Only.runs {P : Q → Prop} (honly : p.Only P) (h : p.Runs l r) : ∀ x ∈ l, P x.1 := by
  induction h with
  | result a => simp
  | waits q next =>
    intro x hx
    rw [List.mem_singleton.1 hx]
    exact honly.1
  | answered a _ ih =>
    intro x hx
    rcases List.mem_cons.1 hx with rfl | hx
    · exact honly.1
    · exact ih (honly.2 a) x hx

theorem Only.bind {P : Q → Prop} {f : α → Procedure Q A β} (hp : p.Only P) (hf : ∀ a, (f a).Only P) :
    (p.bind f).Only P := by
  induction p with
  | result a => exact hf a
  | ask q next ih => exact ⟨hp.1, fun a => ih a (hp.2 a)⟩

theorem Only.through {P : R → Prop} {answer : (q : Q) → Procedure R B (A q)} (h : ∀ q, (answer q).Only P) :
    (p.through answer).Only P := by
  induction p with
  | result a => trivial
  | ask q next ih => exact (h q).bind ih

/-- Whether every log that a course can leave has a property. -/
def Leaves (Φ : Log A → Prop) (p : Procedure Q A α) : Prop := ∀ l r, p.Runs l r → Φ l

/-- A property of logs that is kept when one follows the other. -/
structure Log.Additive (Φ : Log A → Prop) : Prop where
  nil : Φ []
  append : ∀ {l l' : Log A}, Φ l → Φ l' → Φ (l ++ l')

/-- What stands of each entry of some kind, and stands in longer logs too, is such a property. -/
theorem Log.additive_of_entries {ι : Type} {κ : ι → Type} {entry : (i : ι) → κ i → (q : Q) × Option (A q)}
    {P : Log A → ι → Prop} (mono : ∀ {l l' : Log A} {i : ι}, l ⊆ l' → P l i → P l' i) :
    Log.Additive fun l : Log A => ∀ i k, entry i k ∈ l → P l i where
  nil := fun _ _ hx => by cases hx
  append h h' i k hx := by
    rcases List.mem_append.1 hx with hx | hx
    · exact mono (List.subset_append_left _ _) (h i k hx)
    · exact mono (List.subset_append_right _ _) (h' i k hx)

namespace Log.Additive

variable {Φ : Log A → Prop}

theorem result (h : Additive Φ) (a : α) : (Procedure.result a : Procedure Q A α).Leaves Φ := by
  intro l r hruns
  obtain ⟨rfl, -⟩ := runs_result hruns
  exact h.nil

/-- Parts that leave logs with the property make a course that does. -/
theorem bind (h : Additive Φ) {f : α → Procedure Q A β} (hp : p.Leaves Φ) (hf : ∀ a, (f a).Leaves Φ) :
    (p.bind f).Leaves Φ := by
  intro l r hruns
  rcases runs_bind hruns with ⟨h₁, -⟩ | ⟨a, l₁, l₂, rfl, h₁, h₂⟩
  · exact hp l none h₁
  · exact h.append (hp l₁ (some a) h₁) (hf a l₂ r h₂)

end Log.Additive

/-- Whether every log that a course leaves when it comes to its end has a property. -/
def Ends (Φ : Log A → Prop) (p : Procedure Q A α) : Prop := ∀ l a, p.Runs l (some a) → Φ l

namespace Log.Additive

variable {Φ : Log A → Prop}

theorem ends_result (h : Additive Φ) (a : α) : (Procedure.result a : Procedure Q A α).Ends Φ :=
  fun l b hruns => h.result a l (some b) hruns

/-- Parts that end with the property make a course that does. -/
theorem ends_bind (h : Additive Φ) {f : α → Procedure Q A β} (hp : p.Ends Φ) (hf : ∀ a, (f a).Ends Φ) :
    (p.bind f).Ends Φ := by
  intro l b hruns
  rcases runs_bind hruns with ⟨-, hb⟩ | ⟨a, l₁, l₂, rfl, h₁, h₂⟩
  · cases hb
  · exact h.append (hp l₁ a h₁) (hf a l₂ b h₂)

end Log.Additive

/-! ## Courses under way -/

/-- How far a course came: some questions were answered, and the rest is left. -/
inductive Comes (p : Procedure Q A α) : Log A → Procedure Q A α → Prop
  | start : Comes p [] p
  | answered {q : Q} {next : A q → Procedure Q A α} {l : Log A} (h : Comes p l (.ask q next)) (a : A q) :
    Comes p (l ++ [⟨q, some a⟩]) (next a)

namespace Comes

variable {p' : Procedure Q A α}

/-- What comes of the rest comes of the course. -/
theorem runs {l' : Log A} (h : Comes p l p') (hrest : p'.Runs l' r) : p.Runs (l ++ l') r := by
  induction h generalizing l' with
  | start => exact hrest
  | answered h a ih =>
    rw [List.append_assoc, List.singleton_append]
    exact ih (.answered a hrest)

theorem done {a : α} (h : Comes p l (.result a)) : p.Runs l (some a) := by
  have hruns := h.runs (.result a)
  rwa [List.append_nil] at hruns

theorem waiting {q : Q} {next : A q → Procedure Q A α} (h : Comes p l (.ask q next)) : p.Runs (l ++ [⟨q, none⟩]) none :=
  h.runs (.waits q next)

/-- A course stands at its first question, or that was answered. -/
theorem of_ask {q : Q} {next : A q → Procedure Q A α} (h : Comes (.ask q next) l p') :
    l = [] ∧ p' = .ask q next ∨ ∃ a l', l = ⟨q, some a⟩ :: l' ∧ Comes (next a) l' p' := by
  induction h with
  | start => exact .inl ⟨rfl, rfl⟩
  | answered h a ih =>
    rcases ih with ⟨rfl, hask⟩ | ⟨b, l', rfl, hrest⟩
    · cases hask
      exact .inr ⟨a, [], rfl, .start⟩
    · exact .inr ⟨b, _, rfl, hrest.answered a⟩

theorem of_result {a : α} (h : Comes (.result a) l p') : l = [] ∧ p' = .result a := by
  induction h with
  | start => exact ⟨rfl, rfl⟩
  | answered h b ih => cases ih.2

end Comes

/-- The log of a course whose questions are put in other words. -/
def Log.translate (f : Q → R) (l : Log fun q => B (f q)) : Log B := l.map fun x => ⟨f x.1, x.2⟩

theorem Log.mem_translate {f : Q → R} (hf : ∀ q q', f q = f q' → q = q') {l : Log fun q => B (f q)} {q : Q}
    {x : Option (B (f q))} : ⟨f q, x⟩ ∈ Log.translate f l ↔ ⟨q, x⟩ ∈ l := by
  refine ⟨fun h => ?_, fun h => List.mem_map.2 ⟨⟨q, x⟩, h, rfl⟩⟩
  obtain ⟨⟨q', x'⟩, hmem, he⟩ := List.mem_map.1 h
  obtain ⟨hq, hx⟩ := Sigma.mk.inj he
  obtain rfl := hf q' q hq
  obtain rfl := eq_of_heq hx
  exact hmem

/-- A course whose questions are put in other words goes as before. -/
theorem runs_through {f : Q → R} {p : Procedure Q (fun q => B (f q)) α} {l : Log B}
    (h : (p.through fun q => query (f q)).Runs l r) : ∃ l', p.Runs l' r ∧ l = Log.translate f l' := by
  induction p generalizing l with
  | result a =>
    obtain ⟨rfl, rfl⟩ := runs_result h
    exact ⟨[], .result a, rfl⟩
  | ask q next ih =>
    rcases runs_ask h with ⟨rfl, rfl⟩ | ⟨a, l', rfl, hnext⟩
    · exact ⟨[⟨q, none⟩], .waits q _, rfl⟩
    · obtain ⟨l₁, h₁, rfl⟩ := ih a hnext
      exact ⟨⟨q, some a⟩ :: l₁, Runs.answered (A := fun q => B (f q)) a h₁, rfl⟩

/-- The log of a course whose questions are all answered. -/
def logWith (answer : (q : Q) → A q) : Procedure Q A α → Log A
  | .result _ => []
  | .ask q next => ⟨q, some (answer q)⟩ :: (next (answer q)).logWith answer

theorem mem_logWith {answer : (q : Q) → A q} {q : Q} {x : Option (A q)} (h : ⟨q, x⟩ ∈ p.logWith answer) :
    x = some (answer q) := by
  induction p with
  | result a => cases h
  | ask q' next ih =>
    rcases List.mem_cons.1 h with h | h
    · cases h
      rfl
    · exact ih (answer q') h

/-- With all its questions answered, a course comes to its end. -/
theorem runs_logWith (answer : (q : Q) → A q) (p : Procedure Q A α) :
    p.Runs (p.logWith answer) (some (p.run (m := Id) answer)) := by
  induction p with
  | result a => exact .result a
  | ask q next ih => exact .answered (answer q) (ih (answer q))

/-! ## Results under some answers -/

/-- Whether a result is one that a course can have if each question is answered in one of the ways that `P` allows. -/
def Gives (P : (q : Q) → A q → Prop) : Procedure Q A α → α → Prop
  | .result a, b => b = a
  | .ask q next, b => ∃ a, P q a ∧ (next a).Gives P b

/-- Whether all questions of a log were answered, each in one of the ways that `P` allows. -/
def Log.Answered (P : (q : Q) → A q → Prop) (l : Log A) : Prop := ∀ q x, ⟨q, x⟩ ∈ l → ∃ a, x = some a ∧ P q a

variable {P : (q : Q) → A q → Prop}

/-- A course whose questions were all answered came to its end. -/
theorem gives_of_runs (h : p.Runs l r) (hl : Log.Answered P l) : ∃ a, r = some a ∧ p.Gives P a := by
  induction h with
  | result a => exact ⟨a, rfl, rfl⟩
  | waits q next =>
    obtain ⟨a, ha, -⟩ := hl q none List.mem_cons_self
    cases ha
  | @answered q next l r a _ ih =>
    obtain ⟨a', ha, hP⟩ := hl q (some a) List.mem_cons_self
    cases ha
    obtain ⟨b, rfl, hgives⟩ := ih fun q x hx => hl q x (List.mem_cons_of_mem _ hx)
    exact ⟨b, rfl, a, hP, hgives⟩

theorem gives_bind {f : α → Procedure Q A β} {b : β} :
    (p.bind f).Gives P b ↔ ∃ a, p.Gives P a ∧ (f a).Gives P b := by
  induction p with
  | result a =>
    refine ⟨fun h => ⟨a, rfl, h⟩, fun ⟨a', ha, h⟩ => ?_⟩
    obtain rfl : a' = a := ha
    exact h
  | ask q next ih =>
    constructor
    · rintro ⟨x, hx, h⟩
      obtain ⟨a, ha, h⟩ := (ih x).1 h
      exact ⟨a, ⟨x, hx, ha⟩, h⟩
    · rintro ⟨a, ⟨x, hx, ha⟩, h⟩
      exact ⟨x, hx, (ih x).2 ⟨a, ha, h⟩⟩

theorem gives_through {f : Q → R} {P : (q : R) → B q → Prop} {p : Procedure Q (fun q => B (f q)) α} {a : α} :
    (p.through fun q => query (f q)).Gives P a ↔ p.Gives (fun q => P (f q)) a := by
  induction p with
  | result b => exact Iff.rfl
  | ask q next ih => exact exists_congr fun x => and_congr Iff.rfl (ih x)

theorem answered_logWith {answer : (q : Q) → A q} (h : ∀ q, P q (answer q)) : Log.Answered P (p.logWith answer) :=
  fun q _ hx => ⟨answer q, mem_logWith hx, h q⟩

end Courier.Procedure
