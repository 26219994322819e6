import Courier.Json.Decoder
import Courier.Json.Render
import Courier.Proofs.Number
/-
What is written is read back. A reader of one form, standing at the written
form of a value, gives what the value stands for and leaves what comes after it
— provided that what comes after ends a value: nothing, a comma, or a closing
bracket. Without that proviso it would be false: a digit that follows a numeral
would be taken for a part of it.

A record is dealt with once, for any list of fields. Its written form has all
fields in their order, so the reader meets each of them once and makes the
changes of all of them, one after the other.
-/

namespace Courier.Json

open Courier.Number (digit? digitChar digits decimal readDigits)

/-- What may come after a value. -/
inductive Stops : Source → Prop
  | ended : Stops []
  | comma (r : Source) : Stops (some ',' :: r)
  | endList (r : Source) : Stops (some ']' :: r)
  | endObject (r : Source) : Stops (some '\x7d' :: r)

/-! ## Texts -/

theorem hex4?_control {n : Nat} (h : n < 0x20) :
    hex4? (some '0') (some '0') (some (Text.hexDigit (n / 16))) (some (Text.hexDigit (n % 16))) = some n := by
  revert n; decide

/-- One written character is read back. -/
theorem quotedFrom_escapeChar (c : Char) (acc : List Char) (sound : Bool) (r : Source) :
    quotedFrom acc sound ((escapeChar c).map some ++ r) = quotedFrom (c :: acc) sound r := by
  unfold escapeChar
  -- the seven characters with an escape of their own
  iterate 7
    split
    · next h => subst h; simp [quotedFrom, escaped?]
  split
  · next h =>
    simp only [List.map_cons, List.map_nil, List.cons_append, List.nil_append]
    rw [quotedFrom, hex4?_control h]
    have h1 : ¬(0xDC00 ≤ c.toNat ∧ c.toNat ≤ 0xDFFF) := by omega
    have h2 : c.toNat < 0xD800 ∨ 0xDBFF < c.toNat := by omega
    simp only [h1, h2, if_true, if_false, Char.ofNat_toNat]
  · next hq hb _ _ _ _ _ hc =>
    simp only [List.map_cons, List.map_nil, List.cons_append, List.nil_append]
    rw [quotedFrom]
    · simp [hc]
    all_goals simp_all

theorem quotedFrom_flatMap (cs acc : List Char) (r : Source) :
    quotedFrom acc true ((cs.flatMap escapeChar).map some ++ some '"' :: r) =
      .done (String.ofList (acc.reverse ++ cs)) r := by
  induction cs generalizing acc with
  | nil => simp [quotedFrom]
  | cons c cs ih =>
    rw [List.flatMap_cons, List.map_append, List.append_assoc, quotedFrom_escapeChar, ih]
    simp

/-- A written text, after its opening quote, is read back. -/
theorem quoted_quoteText (t : String) (r : Source) :
    quoted (((quoteText t).map some).tail ++ r) = .done t r := by
  have h := quotedFrom_flatMap t.toList [] r
  simpa [quoted, quoteText] using h

/-! ## Numerals -/

theorem significand_of_readDigits {cs : List Char} {acc n count : Nat} {r : Source}
    (h : readDigits acc cs = some n) (hn : n ≤ maxU64) (hr : Stops r) :
    significand acc count (cs.map some ++ r) = (n, count + cs.length, false, r) := by
  induction cs generalizing acc count with
  | nil =>
    simp only [readDigits, Option.some.injEq] at h
    subst h
    cases hr <;> simp [significand, digit?]
  | cons c cs ih =>
    simp only [readDigits] at h
    cases hc : digit? c with
    | none => simp [hc] at h
    | some d =>
      simp only [hc] at h
      have hle := Number.le_of_readDigits h
      simp only [List.map_cons, List.cons_append, significand, hc, if_pos (Nat.le_trans hle hn), ih h,
        List.length_cons]
      congr 2
      omega

/-- The digits of a number, with or without a sign before them, are taken as that number. -/
theorem numeral_digits {n : Nat} {r : Source} (positive : Bool) (hn : n ≤ maxU64) (hr : Stops r) :
    numeral positive ((digits n).map some ++ r) = afterWhole positive n r := by
  obtain ⟨d, cs, hd, hlt, hz⟩ := Number.digits_cons n
  have hread := Number.readDigits_digits n
  rw [hd] at hread ⊢
  simp only [readDigits, Number.digit?_digitChar hlt, Nat.zero_mul, Nat.zero_add] at hread
  simp only [List.map_cons, List.cons_append]
  unfold numeral
  dsimp only
  rw [Number.digit?_digitChar hlt]
  rcases Nat.eq_zero_or_pos d with rfl | hpos
  · obtain ⟨rfl, rfl⟩ := hz rfl
    cases hr <;> simp [digit?]
  · obtain ⟨d, rfl⟩ : ∃ e, d = e + 1 := ⟨d - 1, by omega⟩
    simp only [significand_of_readDigits hread hn hr]

theorem afterWhole_stops {r : Source} (hr : Stops r) (positive : Bool) (n : Nat) :
    afterWhole positive n r =
      if positive then .done (.whole n) r
      else if n = 0 ∨ 2 ^ 63 < n then .done (.real (Number.Binary64.ofNat n).neg) r
      else .done (.whole (-(n : Int))) r := by
  cases hr <;> simp [afterWhole]

/-! ## Forms -/

/-- Standing at a written value, a reader gives what the value stands for, and
leaves the rest. `depth` is how deep the value is nested. -/
def Decoder.Reads {α : Type} (d : Decoder α) (v : Value) (depth : Nat) (a : α) : Prop :=
  ∀ limit r, depth ≤ limit → Stops r → d limit ((compactChars v).map some ++ r) = .done a r

/-- Whether all numbers of a range are written as numerals that are read as whole numbers. -/
structure Whole.Exact (w : Whole) : Prop where
  least : -2 ^ 63 ≤ w.least
  greatest : w.greatest ≤ 2 ^ 64 - 1

namespace Decoder

theorem begin_of_not_gap {α : Type} {c : Char} (h : isGap c = false) (r : Source) (next : Source → Outcome α) :
    begin (some c :: r) next = next (some c :: r) := by
  simp [begin, skipGap, h]

theorem quoteText_map (t : String) (r : Source) :
    (quoteText t).map some ++ r = some '"' :: (((quoteText t).map some).tail ++ r) := by
  simp [quoteText]

theorem text_reads {depth : Nat} (t : String) : (Layout.text : Decoder String).Reads (.text t) depth t := by
  intro limit r _ _
  simp only [compactChars, quoteText_map, Layout.text, Decoder.text]
  rw [begin_of_not_gap (by decide)]
  exact quoted_quoteText t r

theorem flag_reads {depth : Nat} (b : Bool) : (Layout.flag : Decoder Bool).Reads (.bool b) depth b := by
  intro limit r _ _
  cases b <;> simp [compactChars, Layout.flag, Decoder.flag, begin, skipGap, isGap, literal, Outcome.map]

theorem parsed_reads {α : Type} {depth : Nat} {wanted : String} {parse : String → Except String α} {t : String}
    {a : α} (h : parse t = .ok a) : (Layout.parsed wanted parse : Decoder α).Reads (.text t) depth a := by
  intro limit r _ _
  simp only [compactChars, quoteText_map, Layout.parsed, Decoder.parsed]
  rw [begin_of_not_gap (by decide)]
  simp only [quoted_quoteText, Outcome.andThen, h]

theorem map_reads {α β : Type} {d : Decoder α} {v : Value} {depth : Nat} {a : α} (f : α → β)
    (h : d.Reads v depth a) : (Layout.map f d : Decoder β).Reads v depth (f a) := by
  intro limit r hl hr
  simp only [Layout.map, h limit r hl hr, Outcome.map]

theorem isGap_digitChar {d : Nat} (h : d < 10) : isGap (digitChar d) = false := by
  revert d; decide

theorem whole_reads {depth : Nat} {w : Whole} (hw : w.Exact) {n : Int} (h : w.least ≤ n ∧ n ≤ w.greatest) :
    (Layout.whole w : Decoder Int).Reads (.int n) depth n := by
  intro limit r _ hr
  simp only [compactChars, Layout.whole, Decoder.whole]
  have hleast := hw.least
  have hgreatest := hw.greatest
  cases n with
  | ofNat n =>
    obtain ⟨d, cs, hd, hlt, -⟩ := Number.digits_cons n
    simp only [Int.ofNat_eq_natCast] at h ⊢
    have hnum := numeral_digits (n := n) true (by simp only [maxU64]; omega) hr
    rw [afterWhole_stops hr, if_pos rfl] at hnum
    simp only [decimal, hd, List.map_cons, List.cons_append] at hnum ⊢
    rw [begin_of_not_gap (isGap_digitChar hlt)]
    -- the first character is no sign, which is how the reader tells the two cases apart
    have hminus : digitChar d ≠ '-' := Number.digitChar_ne hlt (by decide)
    simp only [Number.digit?_digitChar hlt, Option.isSome_some, if_true, hnum, Outcome.andThen, Whole.take, if_pos h]
  | negSucc n =>
    have hnum := numeral_digits (n := n + 1) false (by simp only [maxU64]; omega) hr
    rw [afterWhole_stops hr, if_neg (by decide), if_neg (by omega)] at hnum
    simp only [decimal, List.map_cons, List.cons_append]
    rw [begin_of_not_gap (by decide)]
    simp only [hnum, Outcome.andThen, Whole.take]
    rw [if_pos (by omega)]
    rfl

/-! ## Records -/

/-- A member of a written record: its field, its value, and the change that the field reads there. -/
structure Member (σ : Type) where
  field : Field Decoder σ
  value : Value
  change : σ → σ

namespace Member

variable {σ : Type}

def written (m : Member σ) : String × Value := (m.field.name, m.value)

/-- Whether the field reads the value as the change. -/
def Reads (m : Member σ) (depth : Nat) : Prop := m.field.read.Reads m.value depth m.change

end Member

/-- The members that are still to come, the first of all or after a comma. -/
def remaining (first : Bool) : List (String × Value) → List Char
  | [] => []
  | m :: ms => if first then compactMembers (m :: ms) else ',' :: compactMembers (m :: ms)

theorem compactMembers_cons (m : String × Value) (ms : List (String × Value)) :
    compactMembers (m :: ms) = quoteText m.1 ++ ':' :: (compactChars m.2 ++ remaining false ms) := by
  cases ms <;> simp [compactMembers, remaining]

theorem stops_remaining (ms : List (String × Value)) (r : Source) :
    Stops ((remaining false ms).map some ++ some '\x7d' :: r) := by
  cases ms with
  | nil => exact .endObject r
  | cons m ms => exact .comma _

theorem nextKey_remaining (first : Bool) (m : String × Value) (ms : List (String × Value)) (r : Source) :
    nextKey first ((remaining first (m :: ms)).map some ++ r) =
      .done true ((compactMembers (m :: ms)).map some ++ r) := by
  obtain ⟨t, ht⟩ : ∃ t, compactMembers (m :: ms) = '"' :: t := ⟨_, by rw [compactMembers_cons, quoteText]; rfl⟩
  cases first <;> simp [remaining, ht, nextKey, skipGap, isGap]

theorem nextKey_end (first : Bool) (r : Source) :
    nextKey first (some '\x7d' :: r) = .done false (some '\x7d' :: r) := by
  simp [nextKey, skipGap, isGap]

section

variable {σ : Type} {fields : List (Field Decoder σ)} {depth limit : Nat}

theorem find_field (hnames : (fields.map (·.name)).Nodup) {f : Field Decoder σ} (hf : f ∈ fields) :
    fields.find? (fun g => g.name == f.name) = some f := by
  induction fields with
  | nil => simp at hf
  | cons g fields ih =>
    simp only [List.map_cons, List.nodup_cons, List.mem_map, not_exists, not_and] at hnames
    rcases List.mem_cons.1 hf with rfl | hf
    · simp
    · have hne : (g.name == f.name) = false := by
        simp only [beq_eq_false_iff_ne]
        exact fun he => hnames.1 f hf he.symm
      simp only [List.find?_cons, hne]
      exact ih hnames.2 hf

/-- Standing after the key of a field that is new, the reader makes the change of the field. -/
theorem member_written (hnames : (fields.map (·.name)).Nodup) {m : Member σ} (hf : m.field ∈ fields)
    (hread : m.Reads depth) (hl : depth ≤ limit) {p : Partial σ} (hnew : m.field.name ∉ p.seen) {r : Source}
    (hr : Stops r) :
    member fields limit p m.field.name (some ':' :: ((compactChars m.value).map some ++ r)) =
      .done ⟨m.change p.value, m.field.name :: p.seen⟩ r := by
  have hcolon : colon (some ':' :: ((compactChars m.value).map some ++ r)) =
      .done () ((compactChars m.value).map some ++ r) := by simp [colon, skipGap, isGap]
  simp only [member, find_field hnames hf, List.contains_eq_mem, hnew, decide_false, Bool.false_eq_true, if_false,
    hcolon, Outcome.andThen, hread limit r hl hr, Outcome.map]

/-- The reader goes through the members of a written record and makes all their changes. -/
theorem members_written (hnames : (fields.map (·.name)).Nodup) (hl : depth ≤ limit) {ms : List (Member σ)}
    (hin : ∀ m ∈ ms, m.field ∈ fields) (hread : ∀ m ∈ ms, m.Reads depth)
    (hms : (ms.map (·.field.name)).Nodup) (first : Bool) (p : Partial σ)
    (hnew : ∀ m ∈ ms, m.field.name ∉ p.seen) {fuel : Nat} (hfuel : ms.length < fuel) (r : Source) :
    members (member fields limit) fuel first p
        ((remaining first (ms.map Member.written)).map some ++ some '\x7d' :: r) =
      .done ⟨ms.foldl (fun a m => m.change a) p.value, (ms.map (·.field.name)).reverse ++ p.seen⟩
        (some '\x7d' :: r) := by
  induction ms generalizing first p fuel with
  | nil =>
    obtain ⟨fuel, rfl⟩ : ∃ n, fuel = n + 1 := ⟨fuel - 1, by simp at hfuel; omega⟩
    simp [members, remaining, nextKey_end, Outcome.andThen]
  | cons m ms ih =>
    obtain ⟨fuel, rfl⟩ : ∃ n, fuel = n + 1 := ⟨fuel - 1, by simp at hfuel; omega⟩
    simp only [List.map_cons, List.nodup_cons, List.mem_map, not_exists, not_and] at hms
    have hstep := member_written hnames (hin m (by simp)) (hread m (by simp)) hl (hnew m (by simp))
      (stops_remaining (ms.map Member.written) r)
    have hlt : ms.length < fuel := by simpa using hfuel
    have hrest := ih (fun k hk => hin k (by simp [hk])) (fun k hk => hread k (by simp [hk])) hms.2 false
      ⟨m.change p.value, m.field.name :: p.seen⟩
      (fun k hk => by
        simp only [List.mem_cons, not_or]
        exact ⟨hms.1 k hk, hnew k (by simp [hk])⟩)
      hlt
    simp only [List.map_cons, members, nextKey_remaining, Outcome.andThen]
    rw [compactMembers_cons, List.map_append, quoteText_map]
    simp only [List.append_assoc, List.tail_cons, List.map_cons, List.map_append, List.cons_append]
    simp only [Member.written, quoted_quoteText] at hrest ⊢
    simp only [hstep, hrest, List.foldl_cons, List.reverse_cons, List.append_assoc, List.singleton_append]

theorem remaining_true (ms : List (String × Value)) : remaining true ms = compactMembers ms := by
  cases ms <;> simp [remaining, compactMembers]

theorem length_le_compactMembers (ms : List (String × Value)) : ms.length ≤ (compactMembers ms).length := by
  induction ms with
  | nil => simp
  | cons m ms ih =>
    have hle : (compactMembers ms).length ≤ (remaining false ms).length := by
      cases ms <;> simp [remaining, compactMembers]
    rw [compactMembers_cons]
    simp only [List.length_append, List.length_cons]
    omega

/-- All members being there, no field is missing in the end. -/
theorem recordOfMembers_written {ms : List (Member σ)} (hnames : (ms.map (·.field.name)).Nodup)
    (hread : ∀ m ∈ ms, m.Reads depth) (hl : depth ≤ limit) (start : σ) (r : Source) :
    recordOfMembers start (ms.map (·.field)) limit
        ((compactMembers (ms.map Member.written)).map some ++ some '\x7d' :: r) =
      .done (ms.foldl (fun a m => m.change a) start) (some '\x7d' :: r) := by
  have hfields : ((ms.map (·.field)).map (·.name)).Nodup := by simpa [List.map_map, Function.comp_def] using hnames
  have hfuel : ms.length <
      ((compactMembers (ms.map Member.written)).map some ++ some '\x7d' :: r).length + 1 := by
    have := length_le_compactMembers (ms.map Member.written)
    simp only [List.length_map, List.length_append, List.length_cons] at this ⊢
    omega
  have hall := members_written hfields hl (fun m hm => List.mem_map_of_mem hm) hread hnames true ⟨start, []⟩
    (by simp) hfuel r
  rw [remaining_true] at hall
  simp only [recordOfMembers, hall, Outcome.andThen, List.append_nil]
  split
  · next f hf =>
    obtain ⟨m, hm, rfl⟩ := List.mem_map.1 (List.mem_of_find?_eq_some hf)
    have := List.find?_some hf
    have hseen : m.field.name ∈ ms.map (·.field.name) := List.mem_map_of_mem (f := fun m => m.field.name) hm
    simp [hseen] at this
  · rfl

end

/-- Fields beside the written members that they read, and the changes that they make of them. -/
inductive FieldsRead {σ : Type} (depth : Nat) : List (Field Decoder σ) → List (String × Value) → List (σ → σ) → Prop
  | nil : FieldsRead depth [] [] []
  | cons {f : Field Decoder σ} {v : Value} {change : σ → σ} {fs ws cs} :
    f.read.Reads v depth change → FieldsRead depth fs ws cs → FieldsRead depth (f :: fs) ((f.name, v) :: ws) (change :: cs)

theorem FieldsRead.members {σ : Type} {depth : Nat} {fs : List (Field Decoder σ)} {ws : List (String × Value)}
    {cs : List (σ → σ)} (h : FieldsRead depth fs ws cs) :
    ∃ ms : List (Member σ), ms.map (·.field) = fs ∧ ms.map Member.written = ws ∧ ms.map (·.change) = cs ∧
      ∀ m ∈ ms, m.Reads depth := by
  induction h with
  | nil => exact ⟨[], rfl, rfl, rfl, by simp⟩
  | @cons f v change fs ws cs hread _ ih =>
    obtain ⟨ms, rfl, rfl, rfl, hms⟩ := ih
    refine ⟨⟨f, v, change⟩ :: ms, rfl, rfl, rfl, fun m hm => ?_⟩
    rcases List.mem_cons.1 hm with rfl | hm
    · exact hread
    · exact hms m hm

/-- **A written record is read back**, if each of its fields is: a reader of the
record gives the start with the changes of all fields made, in their order. -/
theorem record_reads {σ : Type} (typeName : String) (start : σ) {a : σ} {depth : Nat} {fs : List (Field Decoder σ)}
    {ws : List (String × Value)} {cs : List (σ → σ)} (hread : FieldsRead depth fs ws cs)
    (hnames : (fs.map (·.name)).Nodup) (ha : cs.foldl (fun a change => change a) start = a) :
    (Layout.record typeName start fs : Decoder σ).Reads (.object ws) (depth + 2) a := by
  subst ha
  obtain ⟨ms, rfl, rfl, rfl, hms⟩ := hread.members
  rw [List.map_map] at hnames
  intro limit r hl _
  obtain ⟨limit, rfl⟩ : ∃ n, limit = n + 2 := ⟨limit - 2, by omega⟩
  have hdepth : depth ≤ limit + 1 := by omega
  have hall := recordOfMembers_written hnames hms hdepth start r
  simp only [compactChars, List.map_cons, List.map_append, List.cons_append, List.append_assoc, List.map_nil,
    List.nil_append, Layout.record, Decoder.record]
  rw [begin_of_not_gap (by decide)]
  simp only [nested, between, List.tail_cons, hall]
  simp [endObject, skipGap, isGap, Outcome.map, Outcome.placed, List.foldl_map]

/-- A whole text that is the written form of a value. -/
theorem ofString_compact {α : Type} {d : Decoder α} {v : Value} {depth : Nat} {a : α} (h : d.Reads v depth a)
    (hd : depth ≤ depthLimit) : d.ofString v.compact = .ok a := by
  have hread := h depthLimit [] hd .ended
  rw [List.append_nil] at hread
  simp only [ofString, run, Source.ofString, Value.compact, String.toList_ofList, hread, Outcome.andThen, skipGap]

/-! ## Values of any kind -/

theorem value_text {depth : Nat} (t : String) : value.Reads (.text t) depth (.text t) := by
  intro limit r _ _
  have hvalue (nest : Source → Outcome Value) :
      valueWith nest (some '"' :: (((quoteText t).map some).tail ++ r)) = .done (.text t) r := by
    rw [valueWith, begin_of_not_gap (by decide)]
    simp only [quoted_quoteText, Outcome.map]
  rw [compactChars, quoteText_map]
  cases limit with
  | zero => exact hvalue _
  | succ limit => exact hvalue _

/-- A numeral begins with a digit, and nothing else of a value does. -/
theorem valueWith_digit {nest : Source → Outcome Value} {d : Nat} (hd : d < 10) (r : Source) :
    valueWith nest (some (digitChar d) :: r) =
      (numeral true (some (digitChar d) :: r)).map fun
        | .whole n => .int n
        | .real x => .real x := by
  match d, hd with
  | 0, _ | 1, _ | 2, _ | 3, _ | 4, _ | 5, _ | 6, _ | 7, _ | 8, _ | 9, _ => rfl

theorem value_natural {depth n : Nat} (hn : n ≤ maxU64) : value.Reads (.int n) depth (.int n) := by
  intro limit r _ hr
  have hnum := numeral_digits true hn hr
  rw [afterWhole_stops hr, if_pos rfl] at hnum
  obtain ⟨d, cs, hd, hlt, -⟩ := Number.digits_cons n
  have hvalue (nest : Source → Outcome Value) : valueWith nest ((digits n).map some ++ r) = .done (.int n) r := by
    rw [hd, List.map_cons, List.cons_append] at hnum ⊢
    rw [valueWith_digit hlt, hnum]
    rfl
  cases limit with
  | zero => exact hvalue _
  | succ limit => exact hvalue _

/-- The reader goes through the members of a written object and keeps them all, the last one first. -/
theorem entries_written {d : Source → Outcome Value} {ms : List (String × Value)}
    (hread : ∀ m ∈ ms, ∀ r, Stops r → d ((compactChars m.2).map some ++ r) = .done m.2 r) (first : Bool)
    (acc : List (String × Value)) {fuel : Nat} (hfuel : ms.length < fuel) (r : Source) :
    members (fun acc key r => (colon r).andThen fun _ r => (d r).map fun v => (key, v) :: acc) fuel first acc
        ((remaining first ms).map some ++ some '\x7d' :: r) =
      .done (ms.reverse ++ acc) (some '\x7d' :: r) := by
  induction ms generalizing first acc fuel with
  | nil =>
    obtain ⟨fuel, rfl⟩ : ∃ n, fuel = n + 1 := ⟨fuel - 1, by simp at hfuel; omega⟩
    simp [members, remaining, nextKey_end, Outcome.andThen]
  | cons m ms ih =>
    obtain ⟨fuel, rfl⟩ : ∃ n, fuel = n + 1 := ⟨fuel - 1, by simp at hfuel; omega⟩
    have hvalue := hread m (by simp) _ (stops_remaining ms r)
    have hcolon (s : Source) : colon (some ':' :: s) = .done () s := by simp [colon, skipGap, isGap]
    have hrest := ih (fun k hk => hread k (by simp [hk])) false (m :: acc) (by simpa using hfuel)
    have hdone {α β : Type} (a : α) (r : Source) (next : α → Source → Outcome β) :
        (Outcome.done a r).andThen next = next a r := rfl
    simp only [members, nextKey_remaining, hdone]
    rw [compactMembers_cons, List.map_append, quoteText_map]
    simp only [List.append_assoc, List.tail_cons, List.map_cons, List.map_append, List.cons_append, quoted_quoteText,
      hdone, hcolon, hvalue]
    rw [List.reverse_cons, List.append_assoc, List.singleton_append]
    exact hrest

theorem value_opened (limit : Nat) (r : Source) : value (limit + 2) (some '\x7b' :: r) =
    between endObject (fun r => (tableBody (value (limit + 1)) r).map Value.object) (some '\x7b' :: r) := by
  rw [value, valueWith, begin_of_not_gap (by decide)]
  rfl

/-- **A written object is read back** as the object of its members, if each value is read back. -/
theorem object_reads {depth : Nat} {ms : List (String × Value)} (hread : ∀ m ∈ ms, value.Reads m.2 depth m.2) :
    value.Reads (.object ms) (depth + 2) (.object (Object.ofMembers ms)) := by
  intro limit r hl _
  obtain ⟨limit, rfl⟩ : ∃ n, limit = n + 2 := ⟨limit - 2, by omega⟩
  have hfuel : ms.length < ((compactMembers ms).map some ++ some '\x7d' :: r).length + 1 := by
    have := length_le_compactMembers ms
    simp only [List.length_map, List.length_append, List.length_cons]
    omega
  have hall := entries_written (d := value (limit + 1)) (fun m hm r hr => hread m hm _ r (by omega) hr) true [] hfuel r
  rw [remaining_true, List.append_nil] at hall
  have hbody : tableBody (value (limit + 1)) ((compactMembers ms).map some ++ some '\x7d' :: r) =
      .done (Object.ofMembers ms) (some '\x7d' :: r) := by
    rw [tableBody, hall, Outcome.map, List.reverse_reverse]
  simp only [compactChars, List.map_cons, List.map_append, List.cons_append, List.append_assoc, List.map_nil,
    List.nil_append]
  rw [value_opened, between, List.tail_cons, hbody]
  simp [endObject, skipGap, isGap, Outcome.map, Outcome.placed]

end Decoder
end Courier.Json
