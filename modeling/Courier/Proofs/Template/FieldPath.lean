import Courier.Proofs.Number
import Courier.Template.FieldPath
/-
Walks along a path, beside the rule that they go by: a segment leads into an object as a key,
and into an array as a position, which is one digit or more and nothing else. A walk strays from
the rule where a position stands behind a plus sign: it is taken as if the sign were not there.
Everywhere else it keeps to the rule.
-/

namespace Courier.FieldPath

open Json (Value)

/-! ## The rule -/

/-- Whether a segment is a position in an array. -/
def isPosition (segment : String) : Bool := !segment.toList.isEmpty && segment.toList.all Char.isDigit

/-- The number that the digits of a position stand for. -/
def position (segment : String) : Nat := Nat.ofDigitChars 10 segment.toList 0

/-- Where a segment leads from a value. -/
def ruledStep (v : Value) (segment : String) : Option Value :=
  match v with
  | .object ms => Json.Object.get? ms segment
  | .array xs => if isPosition segment then xs[position segment]? else none
  | _ => none

/-- Where segments lead from a value. -/
def ruled (v : Value) : List String → Option Value
  | [] => some v
  | s :: r => (ruledStep v s).bind fun w => ruled w r

/-- Whether no array in a value has more elements than a position can tell apart. -/
inductive Addressable : Value → Prop
  | null : Addressable .null
  | bool (b : Bool) : Addressable (.bool b)
  | int (n : Int) : Addressable (.int n)
  | real (x : Number.Binary64) : Addressable (.real x)
  | text (s : String) : Addressable (.text s)
  | array {xs : List Value} (short : xs.length ≤ maxIndex + 1) (elements : ∀ x ∈ xs, Addressable x) :
    Addressable (.array xs)
  | object {ms : Json.Object} (members : ∀ m ∈ ms, Addressable m.2) : Addressable (.object ms)

/-- A walk that goes into an array by a position behind a plus sign, and on to its end. -/
inductive Strays : Value → List String → Prop
  | here {xs : List Value} {x : Value} {digits : String} {r : List String}
    (element : ruledStep (.array xs) digits = some x) (leads : (walk x r).isSome) :
    Strays (.array xs) (("+" ++ digits) :: r)
  | later {v w : Value} {s : String} {r : List String} (hstep : ruledStep v s = some w) (h : Strays w r) :
    Strays v (s :: r)

/-! ## Steps -/

section

variable {v w : Value} {xs : List Value} {s digits : String}

/-- A sign is no digit. -/
theorem isPosition_signed (digits : String) : isPosition ("+" ++ digits) = false := by
  simp [isPosition]

theorem nat?_position (s : String) : Number.nat? s.toList = if isPosition s then some (position s) else none := by
  simp only [Number.nat?_eq, isPosition, position, Bool.and_eq_true, Bool.not_eq_true', List.isEmpty_eq_false_iff]

/-- A segment with a plus sign stands for the same as without it. -/
theorem index?_signed (digits : String) :
    index? ("+" ++ digits) = (Number.nat? digits.toList).filter (· ≤ maxIndex) := by
  have hsign : ("+" ++ digits).toList = '+' :: digits.toList := by simp
  simp only [index?, Number.natWithin?, hsign]
  cases Number.nat? digits.toList <;> simp [Option.filter]

theorem index?_unsigned (hsign : ∀ digits, s ≠ "+" ++ digits) :
    index? s = (Number.nat? s.toList).filter (· ≤ maxIndex) := by
  have hbody : ∀ r, s.toList ≠ '+' :: r := by
    intro r hr
    refine hsign (String.ofList r) (String.toList_inj.1 ?_)
    simpa using hr
  simp only [index?, Number.natWithin?]
  cases Number.nat? s.toList <;> simp [Option.filter]

/-- No position that an array has is beyond those that can be told apart. -/
theorem element_within (short : xs.length ≤ maxIndex + 1) (n : Option Nat) :
    ((n.filter (· ≤ maxIndex)).bind fun i => xs[i]?) = n.bind fun i => xs[i]? := by
  cases n with
  | none => rfl
  | some i =>
    by_cases hi : i ≤ maxIndex
    · simp [Option.filter, hi]
    · have hbeyond : xs[i]? = none := List.getElem?_eq_none (by omega)
      simp [Option.filter, hi, hbeyond]

theorem ruledStep_array (xs : List Value) (s : String) :
    ruledStep (.array xs) s = (Number.nat? s.toList).bind fun i => xs[i]? := by
  rw [nat?_position, ruledStep]
  split <;> rfl

/-- Whether a segment with a plus sign meets an array. -/
def Signed (v : Value) (s : String) : Prop := ∃ xs digits, v = .array xs ∧ s = "+" ++ digits

theorem step_unsigned (h : Addressable v) (hsigned : ¬ Signed v s) : step v s = ruledStep v s := by
  cases h with
  | null | bool | int | real | text | object => rfl
  | @array xs short elements =>
    rw [step, index?_unsigned (fun digits hs => hsigned ⟨xs, digits, rfl, hs⟩), element_within short, ruledStep_array]

theorem step_signed (h : Addressable (.array xs)) (digits : String) :
    step (.array xs) ("+" ++ digits) = ruledStep (.array xs) digits := by
  cases h with
  | array short elements => rw [step, index?_signed, element_within short, ruledStep_array]

theorem ruledStep_signed (xs : List Value) (digits : String) : ruledStep (.array xs) ("+" ++ digits) = none := by
  simp [ruledStep, isPosition_signed]

theorem get?_mem {ms : Json.Object} (h : ms.get? s = some w) : ∃ m ∈ ms, m.2 = w := by
  induction ms with
  | nil => cases h
  | cons m r ih =>
    rw [Json.Object.get?_cons] at h
    split at h
    · exact ⟨m, List.mem_cons_self, Option.some.inj h⟩
    · obtain ⟨m', hm', hw⟩ := ih h
      exact ⟨m', List.mem_cons_of_mem m hm', hw⟩

theorem Addressable.ruledStep (h : Addressable v) (hstep : ruledStep v s = some w) : Addressable w := by
  cases h with
  | null | bool | int | real | text => cases hstep
  | array short elements =>
    simp only [FieldPath.ruledStep] at hstep
    split at hstep
    · exact elements w (List.mem_of_getElem? hstep)
    · cases hstep
  | object members =>
    obtain ⟨m, hm, rfl⟩ := get?_mem hstep
    exact members m hm

end

/-! ## Walks -/

section

variable {v : Value} {xs : List Value} {s digits : String} {r : List String}

theorem strays_unsigned (hsigned : ¬ Signed v s) : Strays v (s :: r) ↔ ∃ w, ruledStep v s = some w ∧ Strays w r := by
  refine ⟨fun h => ?_, fun ⟨w, hstep, h⟩ => .later hstep h⟩
  cases h with
  | here element leads => exact absurd ⟨_, _, rfl, rfl⟩ hsigned
  | later hstep h => exact ⟨_, hstep, h⟩

theorem strays_signed :
    Strays (.array xs) (("+" ++ digits) :: r) ↔ ∃ x, ruledStep (.array xs) digits = some x ∧ (walk x r).isSome := by
  refine ⟨fun h => ?_, fun ⟨x, element, leads⟩ => .here element leads⟩
  generalize hs : "+" ++ digits = s at h
  cases h with
  | @here _ x digits' _ element leads =>
    obtain rfl : digits = digits' := (String.append_right_inj "+").1 hs
    exact ⟨x, element, leads⟩
  | later hstep h =>
    rw [← hs, ruledStep_signed] at hstep
    cases hstep

/-- A walk keeps to the rule unless it strays from it. -/
theorem walk_ruled_iff (h : Addressable v) (segments : List String) :
    walk v segments = ruled v segments ↔ ¬ Strays v segments := by
  induction segments generalizing v with
  | nil => exact ⟨fun _ hstrays => (nomatch hstrays), fun _ => rfl⟩
  | cons s r ih =>
    rw [walk, ruled]
    by_cases hsigned : Signed v s
    · obtain ⟨xs, digits, rfl, rfl⟩ := hsigned
      rw [step_signed h, ruledStep_signed, strays_signed]
      cases hnext : ruledStep (.array xs) digits with
      | none => simp
      | some x => simp [Option.isSome_iff_ne_none]
    · rw [step_unsigned h hsigned, strays_unsigned hsigned]
      cases hnext : ruledStep v s with
      | none => simp
      | some w => simpa using ih (h.ruledStep hnext)

end

/-- **Where a path leads.** It leads where the rule says, in every value whose arrays can be
addressed, unless it goes into an array by a position with a plus sign and on to its end. -/
theorem navigate_ruled_iff (p : FieldPath) {v : Value} (h : Addressable v) :
    p.navigate v = ruled v p.segments ↔ ¬ Strays v p.segments :=
  walk_ruled_iff h p.segments

/-- Two alerts. -/
def sampleAlerts : Value :=
  .object [("alerts", .array [.object [("name", .text "first")], .object [("name", .text "second")]])]

theorem addressable_sampleAlerts : Addressable sampleAlerts := by
  refine .object fun m hm => ?_
  rw [List.mem_singleton.1 hm]
  refine .array (by decide) fun x hx => ?_
  simp only [List.mem_cons, List.not_mem_nil, or_false] at hx
  rcases hx with rfl | rfl <;> exact .object fun m hm => List.mem_singleton.1 hm ▸ .text _

/-- The path `alerts.1.name`. -/
def samplePath : FieldPath := ⟨.body, ["alerts", "1", "name"]⟩

theorem sample_navigate_ruled : Addressable sampleAlerts ∧ ¬ Strays sampleAlerts samplePath.segments :=
  ⟨addressable_sampleAlerts, (navigate_ruled_iff samplePath addressable_sampleAlerts).1 (by rfl)⟩

/-- `alerts.+1` leads to the second alert, although `+1` is no position. -/
theorem not_every_path_ruled :
    ¬ ∀ (text : String) (p : FieldPath) (v : Value), parse text = .ok p → Addressable v →
      p.navigate v = ruled v p.segments := by
  intro h
  have hparse : parse "alerts.+1" = .ok ⟨.body, ["alerts", "+1"]⟩ := by rfl
  have hsame := congrArg Option.isSome (h _ _ _ hparse addressable_sampleAlerts)
  exact absurd hsame (by decide)

end Courier.FieldPath
