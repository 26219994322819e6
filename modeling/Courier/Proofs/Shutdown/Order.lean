import Courier.Proofs.Shutdown.Station
/-
The order in which the relay is brought down. The first thing is to tell everyone to stop.
Only a report of the consumer says that its threads are through: if there is one, none of
them does anything from the first target that is shut down on, and so no delivery meets a
target that was shut down. The store is closed once, and last, however the rest comes to its
end.
-/

namespace Courier.Shutdown

open Procedure Registry Station

/-! ## What stays true while the relay is brought down -/

/-- How often the store was to be closed, after where a shutdown stands. -/
def closings : ShutdownWork ShutdownResult → (asking : Bool) → Nat
  | .result _, _ => 1
  | .ask .closeStore _, asking => if asking then 1 else 0
  | .ask _ _, _ => 0

theorem closings_le_one (rest : ShutdownWork ShutdownResult) (asking : Bool) : closings rest asking ≤ 1 := by
  unfold closings
  split
  · exact Nat.le_refl _
  · split
    · exact Nat.le_refl _
    · exact Nat.zero_le _
  · exact Nat.zero_le _

/-- What the parts of a state have to do with each other, and with what has happened. -/
structure Held (c : ShutdownConfig) (config : ConsumerConfig) (hasConsumer : Bool) (l : List (Station × Act)) (s : Station) :
    Prop where
  comes : Comes (execute c hasConsumer) s.log s.rest
  crew : ∀ k, s.crew = some k → Crew.Reachable config k
  signalled : s.log ≠ [] ∨ s.asking = true → ∃ s₀, (s₀, Act.ask .signal) ∈ l
  /-- The targets are gone through while that is asked for. -/
  stopping : ∀ p, s.targets = some p → s.asking = true ∧ ∃ consumer, s.rest = finish c consumer
  begun : s.asking = true → ∀ consumer, s.rest = finish c consumer → s.targets ≠ none
  turn : ∀ id, s.busy = some id → s.floor.states id ≠ .shutdown ∧ ∃ next, s.targets = some (.ask (.on id .stop) next)
  finished : ∀ report, s.Reported report → ∀ k, s.crew = some k → k.consumer.phase = .finished
  noted : ∀ limit x, ⟨.stopTargets limit, some x⟩ ∈ s.log → ∃ s₀, (s₀, Act.answered (.stopTargets limit) x) ∈ l
  closes : l.countP (·.2.isClose) = closings s.rest s.asking

section

variable {r : Registry} {c : ShutdownConfig} {config : ConsumerConfig} {hasConsumer : Bool} {l : List (Station × Act)}
  {s s' : Station} {act : Act}

theorem Station.Begins.held (h : Begins c config hasConsumer s) : Held c config hasConsumer [] s := by
  obtain ⟨hrest, hlog, hsilent, htargets, hbusy, -, hreachable⟩ := h
  constructor
  case comes => rw [hrest, hlog]; exact .start
  case crew => exact hreachable
  case signalled => simp [hlog, hsilent]
  case stopping => simp [htargets]
  case begun => simp [hsilent]
  case turn => simp [hbusy]
  case finished => simp [Reported, hlog]
  case noted => simp [hlog]
  case closes => rw [hrest]; rfl

/-- The store is to be closed as often as before. -/
theorem countP_close (hclose : act.isClose = false) : (l ++ [(s, act)]).countP (·.2.isClose) = l.countP (·.2.isClose) := by
  simp [List.countP_append, hclose]

/-- The targets are shut down at one place. -/
theorem Stands.at_targets {log : ShutdownLog} {rest : ShutdownWork ShutdownResult} {limit : Nat}
    {next : Option (Except RegistryError Unit) → ShutdownWork ShutdownResult} (h : Stands c hasConsumer log rest)
    (hrest : rest = .ask (.stopTargets limit) next) : ∃ consumer, rest = finish c consumer := by
  cases h with
  | fresh => cases hrest
  | waiting => cases hrest
  | stopping => exact ⟨_, rfl⟩
  | closing => cases hrest
  | closed => cases hrest

/-- Nothing but the last question has the store closed. -/
theorem Stands.closings_answer {log : ShutdownLog} {rest : ShutdownWork ShutdownResult} {q : ShutdownAsk}
    {next : q.Answer → ShutdownWork ShutdownResult} (h : Stands c hasConsumer log rest) (hrest : rest = .ask q next)
    (a : q.Answer) : closings (next a) false = closings rest true := by
  cases h with
  | fresh =>
    cases hrest
    cases hasConsumer <;> rfl
  | waiting =>
    cases hrest
    rfl
  | stopping =>
    cases hrest
    rfl
  | closing =>
    cases hrest
    rfl
  | closed => cases hrest

theorem noted_append {a : Act} {x : Station × Act} (h : ∃ s₀, (s₀, a) ∈ l) : ∃ s₀, (s₀, a) ∈ l ++ [x] := by
  obtain ⟨s₀, hmem⟩ := h
  exact ⟨s₀, List.mem_append_left _ hmem⟩

theorem noted_last {a : Act} : ∃ s₀, (s₀, a) ∈ l ++ [(s, a)] := ⟨s, List.mem_append_right _ List.mem_cons_self⟩

namespace Held

theorem stands (h : Held c config hasConsumer l s) : Stands c hasConsumer s.log s.rest := stands_of_comes h.comes

/-- Before anything is answered, the signal is what is asked. -/
theorem ask_of_fresh (h : Held c config hasConsumer l s) (hlog : s.log = []) {q : ShutdownAsk}
    {next : q.Answer → ShutdownWork ShutdownResult} (hrest : s.rest = .ask q next) : q = .signal := by
  have hcomes := h.comes
  rw [hlog, hrest] at hcomes
  rcases hcomes.of_ask with ⟨-, hask⟩ | ⟨_, _, hno, -⟩
  · cases hask
    rfl
  · cases hno

/-- The shutdown asks its next question. -/
theorem asks (h : Held c config hasConsumer l s) {q : ShutdownAsk} {next : q.Answer → ShutdownWork ShutdownResult}
    (rest : s.rest = .ask q next) (silent : s.asking = false) :
    Held c config hasConsumer (l ++ [(s, .ask q)]) { s with asking := true, targets := workOf r q } where
  comes := h.comes
  crew := h.crew
  signalled _ := by
    by_cases hlog : s.log = []
    · obtain rfl := h.ask_of_fresh hlog rest
      exact noted_last
    · exact noted_append (h.signalled (.inl hlog))
  stopping p hp := by
    cases q with
    | stopTargets limit => exact ⟨rfl, h.stands.at_targets rest⟩
    | signal | awaitConsumer _ | closeStore => cases hp
  begun _ consumer hfinish := by
    have hask : .ask q next = finish c consumer := rest.symm.trans hfinish
    cases hask
    exact Option.some_ne_none _
  turn id hbusy := by
    obtain ⟨-, p, hp⟩ := h.turn id hbusy
    rw [(h.stopping _ hp).1] at silent
    cases silent
  finished := h.finished
  noted limit x hx := noted_append (h.noted limit x hx)
  closes := by
    have hbefore := h.closes
    rw [rest, silent] at hbefore
    rw [List.countP_append, hbefore, rest]
    cases q <;> rfl

/-- A question of the shutdown is answered. -/
theorem answers (h : Held c config hasConsumer l s) {q : ShutdownAsk} {next : q.Answer → ShutdownWork ShutdownResult}
    {a : q.Answer} {f : Floor} (rest : s.rest = .ask q next) (asking : s.asking = true) (hanswer : Answers s q a f) :
    Held c config hasConsumer (l ++ [(s, .answered q a)])
      { s with
        rest := next a
        log := s.log ++ [⟨q, some a⟩]
        asking := false
        targets := none
        busy := none
        floor := f } where
  comes := (rest ▸ h.comes).answered a
  crew := h.crew
  signalled _ := noted_append (h.signalled (.inr asking))
  stopping p hp := by cases hp
  begun hasking := by cases hasking
  turn id hid := by cases hid
  finished := by
    rintro report ⟨limit, hmem⟩ k hk
    rcases List.mem_append.1 hmem with hmem | hmem
    · exact h.finished report ⟨limit, hmem⟩ k hk
    · cases List.mem_singleton.1 hmem
      cases hanswer with
      | finished crew phase =>
        obtain rfl := Option.some.inj (crew.symm.trans hk)
        exact phase
  noted limit x hx := by
    rcases List.mem_append.1 hx with hx | hx
    · exact noted_append (h.noted limit x hx)
    · cases List.mem_singleton.1 hx
      exact noted_last
  closes := by
    rw [countP_close rfl, h.closes, asking]
    exact (h.stands.closings_answer rest a).symm

/-- The shutdown is at the targets. -/
theorem atTargets (h : Held c config hasConsumer l s) (hclose : act.isClose = false)
    {p : RegistryWork (Except RegistryError Unit)} {busy : Option String} {f : Floor} (htargets : s.targets ≠ none)
    (hturn : ∀ id, busy = some id → f.states id ≠ .shutdown ∧ ∃ next, p = .ask (.on id .stop) next) :
    Held c config hasConsumer (l ++ [(s, act)]) { s with targets := some p, busy, floor := f } where
  comes := h.comes
  crew := h.crew
  signalled hbegun := noted_append (h.signalled hbegun)
  stopping _ _ := by
    obtain ⟨p', hp'⟩ := Option.ne_none_iff_exists'.1 htargets
    exact h.stopping p' hp'
  begun _ _ _ := Option.some_ne_none p
  turn id hid := by
    obtain ⟨hup, next, hp⟩ := hturn id hid
    exact ⟨hup, next, congrArg some hp⟩
  finished := h.finished
  noted limit x hx := noted_append (h.noted limit x hx)
  closes := by rw [countP_close hclose, h.closes]

/-- The others go on. -/
theorem beside (h : Held c config hasConsumer l s) (hclose : act.isClose = false) {crew : Option Crew} {f : Floor}
    (hcrew : ∀ k, crew = some k → Crew.Reachable config k)
    (hfinished : ∀ report, s.Reported report → ∀ k, crew = some k → k.consumer.phase = .finished)
    (hstates : f.states = s.floor.states) : Held c config hasConsumer (l ++ [(s, act)]) { s with crew, floor := f } where
  comes := h.comes
  crew := hcrew
  signalled hbegun := noted_append (h.signalled hbegun)
  stopping := h.stopping
  begun := h.begun
  turn := by
    simp only [hstates]
    exact h.turn
  finished := hfinished
  noted limit x hx := noted_append (h.noted limit x hx)
  closes := by rw [countP_close hclose, h.closes]

/-- A consumer that reported does nothing more. -/
theorem unreported (h : Held c config hasConsumer l s) {k k' : Crew} {a : Crew.Act} (hk : s.crew = some k)
    (hstep : Crew.Step k a k') (report : ConsumerReport) : ¬ s.Reported report := fun hreport =>
  hstep.unfinished (h.crew k hk).kept (h.finished report hreport k hk)

/-- **One step.** -/
theorem step (h : Held c config hasConsumer l s) (hstep : Step r s act s') :
    Held c config hasConsumer (l ++ [(s, act)]) s' := by
  cases hstep with
  | ask rest silent => exact h.asks rest silent
  | answer rest asking hanswer => exact h.answers rest asking hanswer
  | @down id next targets free up =>
    have hsame : { s with busy := some id } = { s with targets := some (.ask (.on id .stop) next), busy := some id } := by
      rw [← targets]
    rw [hsame]
    refine h.atTargets rfl (by simp [targets]) fun k hk => ?_
    cases hk
    exact ⟨up, next, rfl⟩
  | past targets turn hruns => exact h.atTargets rfl (by simp [targets]) nofun
  | @consumer k k' a crew hstep =>
    refine h.beside rfl (fun j hj => ?_) (fun report hreport => absurd hreport (h.unreported crew hstep report)) rfl
    cases hj
    exact (h.crew k crew).step hstep
  | @delivery k n id m args f crew working handling free hfloor =>
    have hbeside : Beside r s.floor f := by
      rcases hfloor with ⟨p, hgoes⟩ | hgiven
      · exact .done hgoes
      · exact .givenUp hgiven
    exact h.beside rfl h.crew h.finished hbeside.states
  | gone => exact h.beside rfl (fun _ hk => by cases hk) (fun _ _ _ hk => by cases hk) rfl

end Held

/-- What stays true holds after any steps. -/
theorem Station.Steps.held (h : Steps r s l s') {l₀ : List (Station × Act)} (hheld : Held c config hasConsumer l₀ s) :
    Held c config hasConsumer (l₀ ++ l) s' := by
  induction h generalizing l₀ with
  | nil => rwa [List.append_nil]
  | @cons s s₁ s' act l hstep _ ih =>
    have hrest := ih (hheld.step hstep)
    rwa [List.append_assoc, List.singleton_append] at hrest

/-- Steps up to an act, that act, and the steps after it. -/
theorem Station.Steps.split {before after : List (Station × Act)} {s₁ : Station}
    (h : Steps r s (before ++ (s₁, act) :: after) s') :
    Steps r s before s₁ ∧ ∃ s₂, Step r s₁ act s₂ ∧ Steps r s₂ after s' := by
  induction before generalizing s with
  | nil =>
    cases h with
    | cons hstep rest => exact ⟨.nil, _, hstep, rest⟩
  | cons x before ih =>
    cases h with
    | cons hstep rest =>
      obtain ⟨hbefore, hafter⟩ := ih rest
      exact ⟨.cons hstep hbefore, hafter⟩

/-! ## The consumer's report -/

/-- Whether a shutdown does not come to wait for the consumer any more. -/
def Past (s : Station) : Prop := s.rest.Only fun q => ∀ limit, q ≠ .awaitConsumer limit

theorem past_of_finish {consumer : Option ConsumerReport} (h : s.rest = finish c consumer) : Past s := by
  rw [Past, h]
  exact ⟨nofun, fun _ => ⟨nofun, fun _ => trivial⟩⟩

/-- After the wait for the consumer, its report stays what it is. -/
theorem Station.Step.reported (hstep : Step r s act s') (hpast : Past s) :
    Past s' ∧ ∀ report, s'.Reported report ↔ s.Reported report := by
  cases hstep with
  | @answer q next a f rest asking hanswer =>
    rw [Past, rest] at hpast
    refine ⟨hpast.2 a, fun report => ⟨?_, ?_⟩⟩
    · rintro ⟨limit, hmem⟩
      rcases List.mem_append.1 hmem with hmem | hmem
      · exact ⟨limit, hmem⟩
      · cases List.mem_singleton.1 hmem
        exact absurd rfl (hpast.1 limit)
    · rintro ⟨limit, hmem⟩
      exact ⟨limit, List.mem_append_left _ hmem⟩
  | ask | down | past | consumer | delivery | gone => exact ⟨hpast, fun _ => .rfl⟩

theorem Station.Steps.reported (h : Steps r s l s') (hpast : Past s) (report : ConsumerReport) :
    s'.Reported report ↔ s.Reported report := by
  induction h with
  | nil => exact .rfl
  | cons hstep _ ih =>
    obtain ⟨hpast', hreported⟩ := hstep.reported hpast
    exact (ih hpast').trans (hreported report)

/-- A consumer that reported has no thread at work. -/
theorem Held.quiet (h : Held c config hasConsumer l s) {report : ConsumerReport} (hreport : s.Reported report) : s.Quiet :=
  fun k hk => (h.crew k hk).kept.idle (h.finished report hreport k hk)

/-- Nothing is done for tasks any more. -/
theorem Held.idle (h : Held c config hasConsumer l s) {report : ConsumerReport} (hreport : s.Reported report)
    (hstep : Step r s act s') : act.isTask = false := by
  cases hstep with
  | consumer crew hstep => exact absurd hreport (h.unreported crew hstep report)
  | @delivery k n _ _ _ _ crew working =>
    rw [h.quiet hreport k crew] at working
    cases working
  | ask | answer | down | past | gone => rfl

/-- What a shutdown says of the consumer is what it was told. -/
theorem Stands.reports {log : ShutdownLog} {rest : ShutdownWork ShutdownResult} {res : ShutdownResult}
    (h : Stands c hasConsumer log rest) (hrest : rest = .result res) (report : ConsumerReport) :
    res.consumer = some report ↔ ∃ limit, ⟨.awaitConsumer limit, some (.finished report)⟩ ∈ log := by
  cases h with
  | fresh | waiting | stopping | closing => cases hrest
  | closed h t =>
    cases hrest
    cases h with
    | alone => simp [result]
    | waited e =>
      have hreport : e.report? = some report ↔ e = .finished report := by
        cases e <;> simp [ConsumerEnd.report?]
      refine hreport.trans ⟨?_, ?_⟩
      · rintro rfl
        exact ⟨c.consumerLimit, by simp⟩
      · rintro ⟨limit, hmem⟩
        simp only [List.cons_append, List.nil_append, List.mem_cons, List.not_mem_nil, or_false] at hmem
        rcases hmem with hmem | hmem | hmem | hmem
        · cases hmem
        · cases hmem
          rfl
        · cases hmem
        · cases hmem

/-! ## Closing the store -/

/-- The store is closed after the targets. -/
theorem Stands.at_closing {log : ShutdownLog} {rest : ShutdownWork ShutdownResult} {next : Unit → ShutdownWork ShutdownResult}
    (h : Stands c hasConsumer log rest) (hrest : rest = .ask .closeStore next) :
    ∃ limit t, ⟨.stopTargets limit, some t⟩ ∈ log := by
  cases h with
  | fresh | waiting | stopping | closed => cases hrest
  | closing h t => exact ⟨_, t, List.mem_append_right _ List.mem_cons_self⟩

/-- Whether a shutdown, by steps of its own, comes to closing the store for the first and only time. -/
def Closable (r : Registry) (l : List (Station × Act)) (s : Station) : Prop :=
  ∃ l' s', Steps r s l' s' ∧ (∀ x ∈ l', x.2.isOwn = true) ∧ (l ++ l').countP (·.2.isClose) = 1

theorem Closable.step (hstep : Step r s act s') (hown : act.isOwn = true) (h : Closable r (l ++ [(s, act)]) s') :
    Closable r l s := by
  obtain ⟨l', s'', hsteps, hall, hcount⟩ := h
  refine ⟨(s, act) :: l', s'', .cons hstep hsteps, ?_, ?_⟩
  · intro x hx
    rcases List.mem_cons.1 hx with rfl | hx
    · exact hown
    · exact hall x hx
  · rwa [List.append_assoc, List.singleton_append] at hcount

/-- A question that is always answered keeps no shutdown from its end. -/
theorem closable_of_answers {q : ShutdownAsk} {next : q.Answer → ShutdownWork ShutdownResult}
    (hanswers : ∀ l s, Held c config hasConsumer l s → s.rest = .ask q next → s.asking = true → ∃ a f, Answers s q a f ∧
      ∀ l' s', Held c config hasConsumer l' s' → s'.rest = next a → Closable r l' s')
    (h : Held c config hasConsumer l s) (rest : s.rest = .ask q next) : Closable r l s := by
  have answered (l : List (Station × Act)) (s : Station) (h : Held c config hasConsumer l s) (rest : s.rest = .ask q next)
      (asking : s.asking = true) : Closable r l s := by
    obtain ⟨a, f, hanswer, hnext⟩ := hanswers l s h rest asking
    exact .step (.answer rest asking hanswer) rfl (hnext _ _ (h.answers rest asking hanswer) rfl)
  cases hasking : s.asking with
  | true => exact answered l s h rest hasking
  | false => exact .step (.ask rest hasking) rfl (answered _ _ (h.asks rest hasking) rest rfl)

theorem closable_closed {res : ShutdownResult} (h : Held c config hasConsumer l s) (rest : s.rest = .result res) :
    Closable r l s := by
  have hcount := h.closes
  rw [rest] at hcount
  exact ⟨[], s, .nil, by simp, by rwa [List.append_nil]⟩

theorem closable_closing {consumer : Option ConsumerReport} {t : Option (Except RegistryError Unit)}
    (h : Held c config hasConsumer l s) (rest : s.rest = .ask .closeStore fun _ => .result (result consumer (stopped t))) :
    Closable r l s :=
  closable_of_answers (q := .closeStore)
    (fun _ _ _ _ _ => ⟨(), _, .closed, fun _ _ h' rest' => closable_closed h' rest'⟩) h rest

/-- The time for the targets is over at any time. -/
theorem closable_stopping {consumer : Option ConsumerReport} (h : Held c config hasConsumer l s)
    (rest : s.rest = finish c consumer) : Closable r l s := by
  refine closable_of_answers (q := .stopTargets c.targetsLimit) (fun l s h rest asking => ?_) h rest
  obtain ⟨p, hp⟩ := Option.ne_none_iff_exists'.1 (h.begun asking consumer rest)
  cases hbusy : s.busy with
  | none => exact ⟨none, _, .waiting hp hbusy, fun _ _ h' rest' => closable_closing h' rest'⟩
  | some id =>
    obtain ⟨hup, next, hask⟩ := h.turn id hbusy
    have hgiven : GivenUp (.ask (.on id .stop) next) s.floor (s.floor.after id [⟨.shutdown, none⟩] (s.floor.states id)) := by
      refine .on ?_
      simp only [Section.run, if_neg hup]
      exact .waits _ _
    exact ⟨none, _, .unanswered hask (by simp [hbusy]) hgiven, fun _ _ h' rest' => closable_closing h' rest'⟩

/-- Wherever a shutdown stands, it can come to its end by itself. -/
theorem Held.closable (h : Held c config hasConsumer l s) : Closable r l s := by
  have waiting (l : List (Station × Act)) (s : Station) (h : Held c config true l s)
      (rest : s.rest = .ask (.awaitConsumer c.consumerLimit) fun e => finish c e.report?) : Closable r l s :=
    closable_of_answers (q := .awaitConsumer c.consumerLimit)
      (fun _ _ _ _ _ => ⟨.late, _, .late, fun _ _ h' rest' => closable_stopping h' rest'⟩) h rest
  have hstands := h.stands
  generalize hlog : s.log = log, hrest : s.rest = rest at hstands
  cases hstands with
  | fresh =>
    refine closable_of_answers (q := .signal) (fun _ _ _ _ _ => ⟨(), _, .told, fun l' s' h' rest' => ?_⟩) h hrest
    cases hasConsumer with
    | false => exact closable_stopping h' rest'
    | true => exact waiting l' s' h' rest'
  | waiting => exact waiting l s h hrest
  | stopping => exact closable_stopping h hrest
  | closing => exact closable_closing h hrest
  | closed => exact closable_closed h hrest

/-! ## The order -/

/-- In which order things happen while the relay is brought down. -/
structure InOrder (r : Registry) (l : List (Station × Act)) (s : Station) : Prop where
  /-- The shutdown does nothing before it tells everyone to stop. -/
  signal : ∀ before s₁ act after, l = before ++ (s₁, act) :: after → act.isOwn = true →
    act = .ask .signal ∨ ∃ s₀, (s₀, Act.ask .signal) ∈ before
  /-- A result with a report of the consumer is one of a shutdown that was told it. -/
  reports : ∀ res, s.rest = .result res → ∀ report, res.consumer = some report ↔ s.Reported report
  /-- With a report, no thread is at work from the first target that is shut down on, and none does anything. -/
  quiet : ∀ report, s.Reported report → ∀ before s₁ id after, l = before ++ (s₁, .down id) :: after →
    s₁.Quiet ∧ s.Quiet ∧ ∀ x ∈ after, x.1.Quiet ∧ x.2.isTask = false
  /-- With a report, no delivery for a task comes to a target that was shut down. -/
  spared : ∀ report, s.Reported report → ∀ before s₁ n id after, l = before ++ (s₁, .delivery n id) :: after →
    ∀ s₀, (s₀, Act.down id) ∉ before
  closesOnce : l.countP (·.2.isClose) ≤ 1
  closed : ∀ res, s.rest = .result res → l.countP (·.2.isClose) = 1
  /-- The store is closed after the targets, and none is shut down after that. -/
  closesLast : ∀ before s₁ after, l = before ++ (s₁, .ask .closeStore) :: after →
    (∃ s₀ limit t, (s₀, Act.answered (.stopTargets limit) t) ∈ before) ∧ ∀ x ∈ after, ∀ id, x.2 ≠ .down id
  /-- Whatever the others do, the shutdown can come to closing the store. -/
  closable : Closable r l s

/-- What an act of the shutdown says of where it stands. -/
theorem Held.signal (h : Held c config hasConsumer l s) (hstep : Step r s act s') (hown : act.isOwn = true) :
    act = .ask .signal ∨ ∃ s₀, (s₀, Act.ask .signal) ∈ l := by
  have later (p : RegistryWork (Except RegistryError Unit)) (targets : s.targets = some p) :
      ∃ s₀, (s₀, Act.ask .signal) ∈ l := h.signalled (.inr (h.stopping p targets).1)
  cases hstep with
  | ask rest silent =>
    by_cases hlog : s.log = []
    · obtain rfl := h.ask_of_fresh hlog rest
      exact .inl rfl
    · exact .inr (h.signalled (.inl hlog))
  | answer rest asking => exact .inr (h.signalled (.inr asking))
  | down targets => exact .inr (later _ targets)
  | past targets => exact .inr (later _ targets)
  | consumer | delivery | gone => cases hown

/-- A target is shut down before the store is closed, and after the wait for the consumer. -/
theorem Held.down {id : String} (h : Held c config hasConsumer l s) (hstep : Step r s (.down id) s') :
    Past s ∧ l.countP (·.2.isClose) = 0 := by
  cases hstep with
  | down targets free up =>
    obtain ⟨-, consumer, hrest⟩ := h.stopping _ targets
    exact ⟨past_of_finish hrest, by rw [h.closes, hrest]; rfl⟩

theorem Station.Begins.quiet (hbegins : Begins c config hasConsumer s) (h : Steps r s l s') {report : ConsumerReport}
    (hreport : s'.Reported report) {before after : List (Station × Act)} {s₁ : Station} {id : String}
    (hl : l = before ++ (s₁, .down id) :: after) :
    s₁.Quiet ∧ s'.Quiet ∧ ∀ x ∈ after, x.1.Quiet ∧ x.2.isTask = false := by
  subst hl
  obtain ⟨hbefore, s₂, hstep, hafter⟩ := h.split
  have hheld₁ := hbefore.held hbegins.held
  obtain ⟨hpast, -⟩ := hheld₁.down hstep
  have hreport₁ := ((Steps.cons hstep hafter).reported hpast report).1 hreport
  refine ⟨hheld₁.quiet hreport₁, (h.held hbegins.held).quiet hreport, ?_⟩
  rintro ⟨s₃, act⟩ hx
  obtain ⟨between, later, rfl⟩ := List.append_of_mem hx
  obtain ⟨hbetween, s₄, hstep₃, -⟩ := hafter.split
  have hsteps := Steps.cons hstep hbetween
  have hheld₃ := hsteps.held hheld₁
  have hreport₃ := (hsteps.reported hpast report).2 hreport₁
  exact ⟨hheld₃.quiet hreport₃, hheld₃.idle hreport₃ hstep₃⟩

/-- **The relay is brought down in order**, whatever the consumer, its threads and the targets do. -/
theorem in_order (hbegins : Begins c config hasConsumer s) (h : Steps r s l s') : InOrder r l s' := by
  have hheld := h.held hbegins.held
  rw [List.nil_append] at hheld
  constructor
  case signal =>
    rintro before s₁ act after rfl hown
    obtain ⟨hbefore, s₂, hstep, -⟩ := h.split
    exact (hbefore.held hbegins.held).signal hstep hown
  case reports => exact fun res hrest report => hheld.stands.reports hrest report
  case quiet => exact fun report hreport before s₁ id after hl => hbegins.quiet h hreport hl
  case spared =>
    rintro report hreport before s₁ n id after rfl s₀ hmem
    obtain ⟨earlier, later, rfl⟩ := List.append_of_mem hmem
    have hl : earlier ++ (s₀, .down id) :: later ++ (s₁, .delivery n id) :: after =
        earlier ++ (s₀, .down id) :: (later ++ (s₁, .delivery n id) :: after) := by
      rw [List.append_assoc, List.cons_append]
    have hidle := ((hbegins.quiet h hreport hl).2.2 (s₁, .delivery n id) (by simp)).2
    cases hidle
  case closesOnce =>
    rw [hheld.closes]
    exact closings_le_one _ _
  case closed =>
    intro res hrest
    rw [hheld.closes, hrest]
    rfl
  case closesLast =>
    rintro before s₁ after rfl
    obtain ⟨hbefore, s₂, hstep, hafter⟩ := h.split
    have hheld₁ := hbefore.held hbegins.held
    constructor
    · cases hstep with
      | ask rest silent =>
        obtain ⟨limit, t, hmem⟩ := hheld₁.stands.at_closing rest
        obtain ⟨s₀, hnoted⟩ := hheld₁.noted limit t hmem
        exact ⟨s₀, limit, t, hnoted⟩
    · rintro ⟨s₃, act⟩ hx id rfl
      obtain ⟨between, later, rfl⟩ := List.append_of_mem hx
      obtain ⟨hbetween, s₄, hstep₃, -⟩ := hafter.split
      have hzero := (((Steps.cons hstep hbetween).held hheld₁).down hstep₃).2
      simp [List.countP_append, Act.isClose] at hzero
  case closable => exact hheld.closable

end

/-! ## A delivery that ends in time -/

theorem Station.Steps.snoc {r : Registry} {s s' s'' : Station} {act : Act} {l : List (Station × Act)} (h : Steps r s l s')
    (hstep : Step r s' act s'') : Steps r s (l ++ [(s', act)]) s'' := by
  induction h with
  | nil => exact .cons hstep .nil
  | cons hfirst _ ih => exact .cons hfirst (ih hstep)

def sampleStation : Station where
  rest := execute {} true
  crew := some { consumer := { config := {} } }
  floor := sampleFloor

theorem sample_begins : Begins {} {} true sampleStation where
  rest := rfl
  log := rfl
  silent := rfl
  targets := rfl
  busy := rfl
  crew := rfl
  reachable k hk := by
    cases hk
    exact .start

/-- A delivery is under way when the shutdown begins, and is settled before the target is shut down. -/
theorem sample_steps : ∃ l s, Steps sample sampleStation l s ∧
    s.rest = .result (result (some { started := 1 }) true) ∧ Act.delivery 0 "a" ∈ l.map (·.2) ∧
    Act.down "a" ∈ l.map (·.2) := by
  let draw : Number.Binary64 → Number.Binary64 → Number.Binary64 := fun a _ => a
  have delivers : ((Section.execute {} []).run .running).Runs [⟨.execute {} [], some (.ok ())⟩]
      (some (.answered (.ok ()), .running)) := Runs.answered (A := BackendAnswer) (.ok ()) (.result _)
  have stops : (Section.stop.run .running).Runs [⟨.shutdown, some (.ok ())⟩] (some (.answered (.ok ()), .shutdown)) :=
    Runs.answered (A := BackendAnswer) (.ok ()) (.result _)
  have run : Steps sample sampleStation [] sampleStation := .nil
  replace run := run.snoc (.consumer rfl (.loop (e := .recovered) draw trivial rfl))
  replace run := run.snoc (.consumer rfl (.loop (e := .place) draw trivial rfl))
  replace run := run.snoc (.consumer rfl (.take (d := Crew.sampleDelivery 1) draw rfl))
  replace run := run.snoc (.consumer rfl (.ask (n := 0) (by decide) rfl rfl rfl))
  replace run := run.snoc (.ask rfl rfl)
  replace run := run.snoc (.answer rfl rfl .told)
  replace run := run.snoc (.consumer rfl (.loop (e := .stop) draw trivial rfl))
  replace run := run.snoc (.ask rfl rfl)
  replace run := run.snoc (@Step.delivery sample _ _ 0 "a" {} [] _ rfl (by decide) rfl nofun (.inl ⟨_, .on delivers⟩))
  replace run := run.snoc (.consumer rfl (.handled (n := 0) (.ok ()) rfl rfl rfl rfl))
  replace run := run.snoc (.consumer rfl (.ask (n := 0) (by decide) rfl rfl rfl))
  replace run := run.snoc (.consumer rfl (.answer (n := 0) (q := .count (.queueAction "ack")) () (by decide) rfl rfl rfl rfl))
  replace run := run.snoc (.consumer rfl (.ask (n := 0) (by decide) rfl rfl rfl))
  replace run := run.snoc (.consumer rfl (.answer (n := 0) (q := .settle (.ack (Crew.sampleDelivery 1)))
    (.ok () : Except QueueError Unit) (by decide) rfl rfl rfl rfl))
  replace run := run.snoc (.consumer rfl (.finish (n := 0) draw rfl rfl rfl))
  replace run := run.snoc (.consumer rfl (.loop (e := .joined 0) draw trivial rfl))
  replace run := run.snoc (.consumer rfl (.loop (e := .drained) draw trivial rfl))
  replace run := run.snoc (.answer rfl rfl (.finished rfl rfl))
  replace run := run.snoc (.ask rfl rfl)
  replace run := run.snoc (@Step.down sample _ "a" _ rfl rfl (by simp [Floor.after, sampleStation, sampleFloor]))
  replace run := run.snoc (@Step.past sample _ "a" _ _ _ _ rfl (.inl rfl) stops)
  replace run := run.snoc (.answer rfl rfl (.stopped rfl))
  replace run := run.snoc (.ask rfl rfl)
  replace run := run.snoc (.answer rfl rfl .closed)
  exact ⟨_, _, run, rfl, by simp only [List.map_append, List.map_cons, List.mem_append, List.mem_cons, true_or, or_true],
    by simp only [List.map_append, List.map_cons, List.mem_append, List.mem_cons, true_or, or_true]⟩

theorem sample_in_order : ∃ l s, Begins {} {} true sampleStation ∧ Steps sample sampleStation l s ∧
    s.rest = .result (result (some { started := 1 }) true) ∧ Act.down "a" ∈ l.map (·.2) ∧ InOrder sample l s := by
  obtain ⟨l, s, run, hrest, -, hdown⟩ := sample_steps
  exact ⟨l, s, sample_begins, run, hrest, hdown, in_order sample_begins run⟩

end Courier.Shutdown
