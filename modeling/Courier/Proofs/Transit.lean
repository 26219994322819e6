import Courier.Proofs.Redis.Loss
import Courier.Proofs.Redis.Provenance
import Courier.Proofs.Secrecy
/-
From the ingress to the worker. A message is written into a task, and on a queue that
keeps texts the task is written once more; the worker reads both back. So of whatever a
queue hands out, the task that the ingress put there comes back as it was, and the worker
reads the very message that was checked.
-/

namespace Courier

open Procedure

/-! ## What tasks are stamped with -/

namespace Service

/-- Whether each task that is put on the queue bears a stamp that was given, and was never tried. -/
def Stamped (l : ServiceLog) : Prop :=
  ∀ t x, (⟨.ingress (.enqueue t), x⟩ : (q : ServiceAsk) × Option q.Answer) ∈ l →
    ∃ stamp, (⟨.ingress .stamp, some stamp⟩ : (q : ServiceAsk) × Option q.Answer) ∈ l ∧
      t.id = stamp.1 ∧ t.enqueuedAt = stamp.2 ∧ t.attempts = 0

/-- Whether the stamps that were given are an identifier and a moment each. -/
def SoundStamps (l : ServiceLog) : Prop :=
  ∀ stamp, (⟨.ingress .stamp, some stamp⟩ : (q : ServiceAsk) × Option q.Answer) ∈ l →
    stamp.1.value < 2 ^ 128 ∧ stamp.2.Sound

variable {s : Service} {r : HttpRequest} {l : ServiceLog} {response : Option HttpResponse} {t : Task}
  {x : Option (Except QueueError Unit)}

theorem kept_stamped : s.Kept Stamped where
  toAdditive := Log.additive_of_entries fun hsub ⟨stamp, hstamp, ht⟩ => ⟨stamp, hsub hstamp, ht⟩
  quiet l h := fun _ _ hx => by cases h _ hx
  respond sub l r hruns t x hx := by
    have hmem {q : IngressAsk} {x : Option q.Answer} := Log.mem_translate (B := ServiceAsk.Answer)
      (f := ServiceAsk.ingress) (fun _ _ h => ServiceAsk.ingress.inj h) (l := l) (q := q) (x := x)
    obtain ⟨stamp, hstamp, ht⟩ := Ingress.respond_stamped _ _ _ _ hruns t x (hmem.1 hx)
    exact ⟨stamp, hmem.2 hstamp, ht⟩

/-- What a request puts on the queue is a task, if what it was stamped with is sound. -/
theorem enqueued_sound (h : (s.handle r).Runs l response) (hstamps : SoundStamps l)
    (hx : (⟨.ingress (.enqueue t), x⟩ : (q : ServiceAsk) × Option q.Answer) ∈ l) : t.Sound := by
  obtain ⟨stamp, hstamp, hid, hat, hattempts⟩ := kept_stamped.handle r l response h t x hx
  obtain ⟨hvalue, hmoment⟩ := hstamps stamp hstamp
  exact ⟨hid ▸ hvalue, hattempts ▸ by decide, hat ▸ hmoment⟩

end Service

/-! ## What comes back -/

/-- Whether a queue handed a delivery out, of what it held at the start and was asked: a queue in memory that was asked
one thing after the other, or one on a Redis server that any number of clients are at. -/
inductive HandedOut : (Task → Prop) → (QueueCall → Prop) → Delivery → Prop
  | memory {q₀ q : MemoryQueue} {asked : List QueueCall} {ds : List Delivery} {d : Delivery}
    (h : MemoryQueue.Session q₀ asked q ds) (hd : d ∈ ds) : HandedOut q₀.Holds (· ∈ asked) d
  | redis {keys : RedisKeys} {w : RedisQueue.World} {ws : List RedisQueue.World} {d : Delivery} (hk : keys.Distinct)
    (h : RedisQueue.World.Course keys (w :: ws)) (hd : d ∈ w.delivered) :
    HandedOut (RedisQueue.World.HeldFirst keys (w :: ws)) (RedisQueue.World.Begun (w :: ws)) d

/-- Whether a task is the only one of its identifier that a queue has to do with. -/
structure Task.Sole (t : Task) (held : Task → Prop) (asked : QueueCall → Prop) : Prop where
  held : ∀ u, held u → u.id ≠ t.id
  asked : ∀ u, asked (.enqueue u) → u.id = t.id → u = t

section

variable {held : Task → Prop} {asked : QueueCall → Prop} {d : Delivery} {t : Task}

theorem HandedOut.stems (h : HandedOut held asked d) : d.task.Stems held asked := by
  cases h with
  | memory h hd => exact h.stems.2 d hd
  | redis hk h hd => exact h.stems hk d hd

/-- What is handed out under an identifier is the task of that identifier, tried however often. -/
theorem HandedOut.eq_withAttempts (h : HandedOut held asked d) (ht : t.Sole held asked) (hid : d.task.id = t.id) :
    d.task = t.withAttempts d.task.attempts := h.stems.eq_withAttempts ht.held ht.asked hid

/-! ## A task put on a queue and taken from it -/

/-- On a queue in memory. -/
theorem exists_handed_memory (t : Task) : ∃ held asked, HandedOut held asked ⟨t, t.id.text⟩ ∧ t.Sole held asked ∧
    ∀ d wait, ¬ asked (.retry d wait) := by
  have hstart : MemoryQueue.Session {} [] {} [] := .start
  have hsession := (hstart.call (.enqueue t) nofun 0 .epoch).call .dequeue nofun 0 .epoch
  refine ⟨_, _, .memory hsession List.mem_cons_self, ⟨?_, ?_⟩, ?_⟩
  · rintro u (h | ⟨due, h⟩ | h) <;> cases h
  · intro u h _
    simpa using h
  · simp

namespace RedisQueue.World

/-- While the first client is at work alone, what it does is all that is begun. -/
theorem Alone.begun {keys : RedisKeys} {w : World} {ws : List World} {x : Client} {p q : List String}
    {a : List (Int × String)} {e : List Task} {ds : List Delivery} {P : QueueCall → Prop} (h : Alone keys w x p q a e ds)
    (hx : ∀ c s, x = .busy c s → P c) (hws : ∀ c, Begun ws c → P c) : ∀ c, Begun (w :: ws) c → P c := by
  rintro c ⟨v, hv, i, s, hs⟩
  rcases List.mem_cons.1 hv with rfl | hv
  · by_cases hi : i = 0
    · exact hx c s (by rw [← h.client, ← hi, hs])
    · rw [h.others i hi] at hs
      cases hs
  · exact hws c ⟨v, hv, i, s, hs⟩

end RedisQueue.World

open RedisQueue World in
/-- On a Redis server. -/
theorem exists_handed_redis {keys : RedisKeys} (hk : keys.Distinct) (ht : t.Sound) :
    ∃ held asked, HandedOut held asked ⟨t, t.encode⟩ ∧ t.Sole held asked ∧ ∀ d wait, ¬ asked (.retry d wait) := by
  have course : Course keys [{}] := .start ⟨fun _ => rfl, List.nodup_nil, rfl, rfl, rfl, rfl⟩
  have h : Alone keys {} .idle [] [] [] [] [] := ⟨rfl, fun _ _ => rfl, rfl, rfl, rfl, rfl, rfl, rfl⟩
  have begun := h.begun (P := fun c => c = .enqueue t ∨ c = .dequeue) nofun fun c ⟨v, hv, _⟩ => absurd hv List.not_mem_nil
  -- the task is put on the queue
  replace course := course.step (.start h.client (c := .enqueue t) ht)
  replace h := h.turn (.busy (.enqueue t) (.adding t))
  replace begun := h.begun (fun _ _ hs => by cases hs; exact .inl rfl) begun
  replace course := course.step (.act h.client .epoch)
  replace h := h.adding hk.apart
  replace begun := h.begun nofun begun
  -- it is taken
  replace course := course.step (.start h.client (c := .dequeue) trivial)
  replace h := h.turn (.busy .dequeue .listing)
  replace begun := h.begun (fun _ _ hs => by cases hs; exact .inr rfl) begun
  replace course := course.step (.act h.client .epoch)
  replace h := h.listing [] rfl
  replace begun := h.begun (fun _ _ hs => by cases hs; exact .inr rfl) begun
  replace course := course.step (.act h.client .epoch)
  replace h := h.taking hk.apart ht
  replace begun := h.begun nofun begun
  refine ⟨_, _, .redis hk course h.mem_delivered, ⟨?_, ?_⟩, ?_⟩
  · rintro u ⟨v, hv, y, hy | hy | hy, -⟩ <;> cases hv <;> cases hy
  · intro u hu _
    rcases begun _ hu with hu | hu
    · exact QueueCall.enqueue.inj hu
    · cases hu
  · intro d wait hd
    rcases begun _ hd with hd | hd <;> cases hd

/-! ## Messages -/

/-- **The worker reads what the ingress checked.** Messages and tasks are read back from their written form, whatever
they hold. So a task that a request put on a queue is handed out as it was put there, until another attempt is asked
for and with the count of its attempts alone changed from then on; and the worker reads in it the checked message. -/
theorem messages_arrive :
    (∀ m : Message, m.Sized → Message.decode m.encode = .ok m) ∧ (∀ t : Task, t.Sound → Task.decode t.encode = .ok t) ∧
    ∀ (s : Service) (request : HttpRequest) (log : Service.ServiceLog) (response : Option HttpResponse),
      Extraction.Dates s.ingress.date → (s.handle request).Runs log response → Service.SoundStamps log →
      ∀ t x, (⟨.ingress (.enqueue t), x⟩ : (q : ServiceAsk) × Option q.Answer) ∈ log →
        ∃ m, t.For m ∧ t.Sound ∧ ∀ held asked d, HandedOut held asked d → t.Sole held asked → d.task.id = t.id →
          Worker.decode d.task = .ok m ∧ d.task = t.withAttempts d.task.attempts ∧
            ((∀ d' wait, asked (.retry d' wait) → d'.task.id ≠ t.id) → d.task = t) := by
  refine ⟨fun m => Message.decode_encode, fun t => Task.decode_encode, ?_⟩
  intro s request log response hdate hserved hstamps t x hx
  obtain ⟨m, hm⟩ := Service.handle_checks hdate hserved t x hx
  refine ⟨m, hm, Service.enqueued_sound hserved hstamps hx, fun held asked d hd ht hid => ?_⟩
  have htask := hd.eq_withAttempts ht hid
  refine ⟨?_, htask, fun hnever => hd.stems.eq_of_not_retried ht.held ht.asked hnever hid⟩
  rw [htask]
  exact Worker.decode_of_carries ⟨hm.kind, hm.carried⟩

open Worker in
theorem sample_arrives : ∃ log response x,
    (Service.sample.handle sampleAttachment).Runs log response ∧ Service.SoundStamps log ∧
    (⟨.ingress (.enqueue sampleAttachedTask), x⟩ : (q : ServiceAsk) × Option q.Answer) ∈ log ∧
    Message.decode sampleAttached.encode = .ok sampleAttached ∧
    Task.decode sampleAttachedTask.encode = .ok sampleAttachedTask ∧
    ∀ receipt ∈ [sampleAttachedTask.id.text, sampleAttachedTask.encode], ∃ held asked,
      HandedOut held asked ⟨sampleAttachedTask, receipt⟩ ∧ sampleAttachedTask.Sole held asked ∧
      (∀ d wait, ¬ asked (.retry d wait)) ∧ decode sampleAttachedTask = .ok sampleAttached := by
  have hruns := runs_logWith Service.sampleAnswer (Service.sample.handle sampleAttachment)
  obtain ⟨x, hx⟩ := sampleAttachment_put
  have hstamps : Service.SoundStamps ((Service.sample.handle sampleAttachment).logWith Service.sampleAnswer) := by
    intro stamp hstamp
    cases mem_logWith hstamp
    exact ⟨by decide, ⟨by decide, by decide, .inl (by decide)⟩⟩
  obtain ⟨hmessages, htasks, harrive⟩ := messages_arrive
  obtain ⟨m, hm, hsound, hdelivered⟩ :=
    harrive Service.sample sampleAttachment _ _ (fun _ _ h => by cases h) hruns hstamps sampleAttachedTask x hx
  have hmessage := hmessages sampleAttached (by constructor <;> decide)
  obtain rfl : sampleAttached = m := Except.ok.inj (hmessage.symm.trans hm.carried)
  refine ⟨_, _, x, hruns, hstamps, hx, hmessage, htasks _ hsound, fun receipt hreceipt => ?_⟩
  obtain ⟨held, asked, hd, hsole, hnever⟩ : ∃ held asked, HandedOut held asked ⟨sampleAttachedTask, receipt⟩ ∧
      sampleAttachedTask.Sole held asked ∧ ∀ d wait, ¬ asked (.retry d wait) := by
    simp only [List.mem_cons, List.not_mem_nil, or_false] at hreceipt
    rcases hreceipt with rfl | rfl
    · exact exists_handed_memory sampleAttachedTask
    · exact exists_handed_redis (RedisKeys.distinct_startingWith "q") hsound
  exact ⟨held, asked, hd, hsole, hnever, (hdelivered held asked _ hd hsole rfl).1⟩

end

end Courier
