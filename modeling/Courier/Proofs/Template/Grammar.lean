import Courier.Template
/-
The grammar of text with actions. A template is texts with an action after each of them, and a
last text. The braces of an action are the first pair that opens and the first pair after it that
closes, so a text holds no pair of opening braces and does not end in one of them, and the same
goes for actions and closing braces. A template reads as its texts and lookups in their order
exactly if it is spelled so and all of its actions are good; if not, the leftmost bad action tells
the error.

What carries the proof is that every text is good actions followed by a place where reading
stops: a last text, an action that is refused, or one that is never closed.
-/

namespace Courier.Template

/-! ## Doubled characters -/

section

variable {c x : Char} {s before after r : List Char}

/-- Whether a doubled character behind a text is the first one. -/
structure Clear (c : Char) (s : List Char) : Prop where
  plain : ¬ [c, c] <:+: s
  ends : s.getLast? ≠ some c

theorem clear_nil : Clear c [] := ⟨by simp, by simp⟩

theorem clear_cons : Clear c (x :: s) ↔ ¬ [c, c] <+: x :: (s ++ c :: r) ∧ Clear c s := by
  cases s with
  | nil =>
    refine ⟨fun h => ⟨fun hpair => h.ends ?_, clear_nil⟩, fun h => ⟨fun hpair => ?_, fun hends => h.1 ?_⟩⟩
    · rw [(List.cons_prefix_cons.1 hpair).1]
      rfl
    · exact absurd hpair.length_le (by simp)
    · obtain rfl : x = c := Option.some.inj hends
      exact ⟨r, rfl⟩
  | cons y s =>
    have hends : (x :: y :: s).getLast? = (y :: s).getLast? := List.getLast?_cons_cons
    have hpair : [c, c] <+: x :: (y :: s ++ c :: r) ↔ [c, c] <+: x :: y :: s := by simp
    rw [hpair]
    constructor
    · intro h
      have hplain := h.plain
      rw [List.infix_cons_iff, not_or] at hplain
      exact ⟨hplain.1, hplain.2, hends ▸ h.ends⟩
    · rintro ⟨hfirst, h⟩
      refine ⟨?_, hends.symm ▸ h.ends⟩
      rw [List.infix_cons_iff]
      exact not_or.2 ⟨hfirst, h.plain⟩

theorem splitPair?_pair : splitPair? c (c :: c :: r) = some ([], r) := by
  simp [splitPair?]

theorem splitPair?_cons (h : ¬ [c, c] <+: x :: s) :
    splitPair? c (x :: s) = (splitPair? c s).map fun p => (x :: p.1, p.2) := by
  cases s with
  | nil => rfl
  | cons y s =>
    rw [splitPair?, if_neg]
    rintro ⟨rfl, rfl⟩
    exact h (by simp)

theorem splitPair?_none_iff : splitPair? c s = none ↔ ¬ [c, c] <:+: s := by
  induction s with
  | nil => simp [splitPair?]
  | cons x s ih =>
    by_cases hpair : [c, c] <+: x :: s
    · obtain ⟨r, hr⟩ := hpair
      have hs : x :: s = c :: c :: r := hr.symm
      rw [hs, splitPair?_pair]
      exact iff_of_false (by simp) fun hplain => hplain ⟨[], r, rfl⟩
    · rw [splitPair?_cons hpair, Option.map_eq_none_iff, ih, List.infix_cons_iff]
      simp [hpair]

/-- What stands before the first doubled character, and what stands behind it. -/
theorem splitPair?_clear (h : Clear c before) : splitPair? c (before ++ c :: c :: after) = some (before, after) := by
  induction before with
  | nil => exact splitPair?_pair
  | cons x before ih =>
    obtain ⟨hpair, hbefore⟩ := clear_cons.1 h
    rw [List.cons_append, splitPair?_cons hpair, ih hbefore]
    rfl

theorem splitPair?_some (h : splitPair? c s = some (before, after)) :
    s = before ++ c :: c :: after ∧ Clear c before := by
  induction s generalizing before with
  | nil => cases h
  | cons x s ih =>
    by_cases hpair : [c, c] <+: x :: s
    · obtain ⟨r, hr⟩ := hpair
      have hs : x :: s = c :: c :: r := hr.symm
      rw [hs, splitPair?_pair] at h
      cases h
      exact ⟨hs, clear_nil⟩
    · rw [splitPair?_cons hpair, Option.map_eq_some_iff] at h
      obtain ⟨⟨before', after'⟩, hsplit, he⟩ := h
      cases he
      obtain ⟨hs, hclear⟩ := ih hsplit
      exact ⟨congrArg (x :: ·) hs, clear_cons.2 ⟨hs ▸ hpair, hclear⟩⟩

end

/-! ## Spelling -/

/-- A text with an action behind it, and what the action looks up. -/
structure Piece where
  text : List Char
  action : List Char
  lookup : Lookup

/-- Whether the braces of an action are the first ones, and the action is good. -/
structure Piece.Proper (p : Piece) : Prop where
  text : Clear '\x7b' p.text
  action : Clear '\x7d' p.action
  accepted : parseAction p.action = .ok p.lookup

/-- Pieces written out one after the other, and what follows them. -/
def spell : List Piece → List Char → List Char
  | [], rest => rest
  | p :: r, rest => p.text ++ '\x7b' :: '\x7b' :: (p.action ++ '\x7d' :: '\x7d' :: spell r rest)

def Piece.parts (p : Piece) : List Part := [.literal (String.ofList p.text), .lookup p.lookup]

/-- The parts that pieces and a last text stand for: the texts that are not empty, and the lookups. -/
def partsOf (pieces : List Piece) (last : List Char) : List Part :=
  (pieces.flatMap Piece.parts ++ [Part.literal (String.ofList last)]).filter (· ≠ Part.literal "")

/-- The parts of pieces in front of others. -/
def piecesThen (pieces : List Piece) (parts : List Part) : List Part :=
  pieces.foldr (fun p r => literalThen p.text (.lookup p.lookup :: r)) parts

/-- Whether a text begins with good pieces and goes on with some rest. -/
structure Begins (s : List Char) (pieces : List Piece) (rest : List Char) : Prop where
  spelled : s = spell pieces rest
  proper : ∀ p ∈ pieces, p.Proper

/-- Whether a text opens no action. -/
def Plain (s : List Char) : Prop := ¬ ['\x7b', '\x7b'] <:+: s

/-- A text whose first action is closed, and refused for an error. -/
inductive Refused : List Char → TemplateError → Prop
  | intro {text action : List Char} {e : TemplateError} (htext : Clear '\x7b' text) (haction : Clear '\x7d' action)
    (refuses : parseAction action = .error e) (more : List Char) :
    Refused (text ++ '\x7b' :: '\x7b' :: (action ++ '\x7d' :: '\x7d' :: more)) e

/-- A text whose first action is never closed. -/
inductive Unclosed : List Char → Prop
  | intro {text more : List Char} (htext : Clear '\x7b' text) (never : ¬ ['\x7d', '\x7d'] <:+: more) :
    Unclosed (text ++ '\x7b' :: '\x7b' :: more)

/-- Whether the first opening braces of a text that have no closing ones behind them come after `n` octets. -/
def FirstUnclosed (s : List Char) (n : Nat) : Prop :=
  ∃ before after, s = before ++ '\x7b' :: '\x7b' :: after ∧ ¬ ['\x7d', '\x7d'] <:+: after ∧
    n = (String.ofList before).utf8ByteSize ∧
    ∀ before' after', s = before' ++ '\x7b' :: '\x7b' :: after' → before'.length < before.length →
      ['\x7d', '\x7d'] <:+: after'

/-- The error that the leftmost bad action of a text calls for. -/
inductive Fault (s : List Char) : TemplateError → Prop
  | refused {pieces : List Piece} {rest : List Char} {e : TemplateError} (begins : Begins s pieces rest)
    (refused : Refused rest e) : Fault s e
  | unclosed {pieces : List Piece} {rest : List Char} {n : Nat} (begins : Begins s pieces rest)
    (unclosed : Unclosed rest) (place : FirstUnclosed s n) : Fault s (.unterminated n)

section

variable {s text action rest last : List Char} {offset : Nat} {pieces : List Piece} {e : TemplateError}

theorem literalThen_eq (text : List Char) (parts : List Part) :
    literalThen text parts = [Part.literal (String.ofList text)].filter (· ≠ Part.literal "") ++ parts := by
  cases text with
  | nil => rfl
  | cons c r => simp [literalThen, List.filter]

theorem piecesThen_last (pieces : List Piece) (last : List Char) :
    piecesThen pieces (literalThen last []) = partsOf pieces last := by
  induction pieces with
  | nil => simp [piecesThen, partsOf, literalThen_eq]
  | cons p pieces ih =>
    rw [piecesThen, List.foldr_cons, ← piecesThen, ih, literalThen_eq]
    by_cases htext : p.text = [] <;> simp [partsOf, Piece.parts, htext]

theorem octets_eq (s : List Char) : octets s = (String.ofList s).utf8ByteSize := by
  have hfold : ∀ n, s.foldl (fun n c => n + c.utf8Size) n = n + (String.ofList s).utf8ByteSize := by
    induction s with
    | nil => exact fun n => rfl
    | cons c s ih => intro n; simp [ih, Nat.add_assoc]
  exact (hfold 0).trans (Nat.zero_add _)

theorem spell_append (pieces : List Piece) (s r : List Char) : spell pieces s ++ r = spell pieces (s ++ r) := by
  induction pieces with
  | nil => rfl
  | cons p pieces ih => simp [spell, ih]

theorem octets_spell (pieces : List Piece) (text : List Char) :
    octets (spell pieces text) = octets (spell pieces []) + octets text := by
  rw [← List.nil_append text, ← spell_append, octets_eq, octets_eq, octets_eq, String.ofList_append,
    String.utf8ByteSize_append, List.nil_append]

/-- Every text begins with good pieces, and what follows them opens no action or a bad one. -/
theorem exists_begins (s : List Char) :
    ∃ pieces rest, Begins s pieces rest ∧ (Plain rest ∨ (∃ e, Refused rest e) ∨ Unclosed rest) := by
  cases hopen : splitPair? '\x7b' s with
  | none => exact ⟨[], s, ⟨rfl, by simp⟩, .inl (splitPair?_none_iff.1 hopen)⟩
  | some p =>
    obtain ⟨text, opened⟩ := p
    obtain ⟨hs, htext⟩ := splitPair?_some hopen
    cases hclose : splitPair? '\x7d' opened with
    | none =>
      have hunclosed := Unclosed.intro htext (splitPair?_none_iff.1 hclose)
      exact ⟨[], s, ⟨rfl, by simp⟩, .inr (.inr (hs ▸ hunclosed))⟩
    | some p =>
      obtain ⟨action, more⟩ := p
      obtain ⟨rfl, haction⟩ := splitPair?_some hclose
      cases hread : parseAction action with
      | error e =>
        have hrefused := Refused.intro htext haction hread more
        exact ⟨[], s, ⟨rfl, by simp⟩, .inr (.inl ⟨e, hs ▸ hrefused⟩)⟩
      | ok l =>
        obtain ⟨pieces, rest, ⟨hmore, hproper⟩, hrest⟩ := exists_begins more
        refine ⟨⟨text, action, l⟩ :: pieces, rest, ⟨?_, ?_⟩, hrest⟩
        · rw [hs, hmore, spell]
        · exact List.forall_mem_cons.2 ⟨⟨htext, haction, hread⟩, hproper⟩
termination_by s.length
decreasing_by
  have hlen := splitPair?_length hopen
  have hlen' := splitPair?_length hclose
  omega

/-! ## Braces that are not closed -/

/-- Nothing in a clear text, or partly in it, is the doubled character. -/
theorem Clear.first {c : Char} {more before after : List Char} (h : Clear c text)
    (heq : text ++ c :: c :: more = before ++ c :: c :: after) : text.length ≤ before.length := by
  induction text generalizing before with
  | nil => exact Nat.zero_le _
  | cons x text ih =>
    obtain ⟨hpair, htext⟩ := clear_cons.1 h
    cases before with
    | nil =>
      refine absurd ?_ hpair
      rw [List.cons_append] at heq
      rw [heq]
      exact ⟨after, rfl⟩
    | cons y before => exact Nat.succ_le_succ (ih htext (List.cons.inj heq).2)

/-- Braces that open are closed by any behind them, unless they stand behind those too. -/
theorem closed_or_beyond {front back before after : List Char}
    (heq : front ++ '\x7d' :: '\x7d' :: back = before ++ '\x7b' :: '\x7b' :: after) :
    ['\x7d', '\x7d'] <:+: after ∨ ∃ between, before = front ++ '\x7d' :: '\x7d' :: between ∧
      back = between ++ '\x7b' :: '\x7b' :: after := by
  rcases List.append_eq_append_iff.1 heq with ⟨between, hbefore, hback⟩ | ⟨between, hfront, hafter⟩
  · refine .inr ?_
    match between, hback with
    | [], hback => simp at hback
    | [_], hback => simp at hback
    | a :: b :: between, hback =>
      simp only [List.cons_append, List.cons.injEq] at hback
      obtain ⟨rfl, rfl, hback⟩ := hback
      exact ⟨between, hbefore, hback⟩
  · refine .inl ?_
    match between, hafter with
    | [], hafter => simp at hafter
    | [_], hafter => simp at hafter
    | a :: b :: between, hafter =>
      simp only [List.cons_append, List.cons.injEq] at hafter
      obtain ⟨-, -, rfl⟩ := hafter
      exact ⟨between, back, by simp⟩

theorem closed_in_spell {more before after : List Char} (htext : Clear '\x7b' text)
    (heq : spell pieces (text ++ '\x7b' :: '\x7b' :: more) = before ++ '\x7b' :: '\x7b' :: after)
    (hlt : before.length < (spell pieces text).length) : ['\x7d', '\x7d'] <:+: after := by
  induction pieces generalizing before with
  | nil => exact absurd (htext.first heq) (Nat.not_le.2 hlt)
  | cons p pieces ih =>
    have hfront : (p.text ++ '\x7b' :: '\x7b' :: p.action) ++ '\x7d' :: '\x7d' ::
        spell pieces (text ++ '\x7b' :: '\x7b' :: more) = before ++ '\x7b' :: '\x7b' :: after := by
      rw [← heq, spell]
      simp
    rcases closed_or_beyond hfront with hclosed | ⟨between, rfl, hback⟩
    · exact hclosed
    · refine ih hback ?_
      simp only [spell, List.length_append, List.length_cons] at hlt
      omega

/-- After good pieces, the first action that is never closed begins at the first braces of that kind. -/
theorem Begins.firstUnclosed {more : List Char} (h : Begins s pieces (text ++ '\x7b' :: '\x7b' :: more))
    (htext : Clear '\x7b' text) (never : ¬ ['\x7d', '\x7d'] <:+: more) :
    FirstUnclosed s (octets (spell pieces text)) := by
  refine ⟨spell pieces text, more, ?_, never, octets_eq _, fun before after hs hlt => ?_⟩
  · rw [h.spelled, spell_append]
  · exact closed_in_spell htext (h.spelled ▸ hs) hlt

theorem FirstUnclosed.unique {m n : Nat} (hm : FirstUnclosed s m) (hn : FirstUnclosed s n) : m = n := by
  obtain ⟨before, after, hs, hnever, rfl, hfirst⟩ := hm
  obtain ⟨before', after', hs', hnever', rfl, hfirst'⟩ := hn
  rcases Nat.lt_trichotomy before.length before'.length with hlt | heq | hlt
  · exact absurd (hfirst' before after hs hlt) hnever
  · rw [(List.append_inj (hs.symm.trans hs') heq).1]
  · exact absurd (hfirst before' after' hs' hlt) hnever'

/-! ## Reading -/

theorem partsFrom_plain (plain : Plain s) : partsFrom offset s = .ok (literalThen s []) := by
  rw [partsFrom]
  split
  · rfl
  · next hopen =>
    rw [splitPair?_none_iff.2 plain] at hopen
    cases hopen

theorem partsFrom_unclosed (htext : Clear '\x7b' text) (never : ¬ ['\x7d', '\x7d'] <:+: rest) :
    partsFrom offset (text ++ '\x7b' :: '\x7b' :: rest) = .error (.unterminated (offset + octets text)) := by
  rw [partsFrom]
  split
  · next hopen =>
    rw [splitPair?_clear htext] at hopen
    cases hopen
  · next hopen =>
    rw [splitPair?_clear htext] at hopen
    cases hopen
    split
    · rfl
    · next hclose =>
      rw [splitPair?_none_iff.2 never] at hclose
      cases hclose

theorem partsFrom_closed (htext : Clear '\x7b' text) (haction : Clear '\x7d' action) :
    partsFrom offset (text ++ '\x7b' :: '\x7b' :: (action ++ '\x7d' :: '\x7d' :: rest)) =
      match parseAction action with
      | .error e => .error e
      | .ok l => (partsFrom (offset + octets text + octets action + 4) rest).map fun parts =>
          literalThen text (.lookup l :: parts) := by
  rw [partsFrom]
  split
  · next hopen =>
    rw [splitPair?_clear htext] at hopen
    cases hopen
  · next hopen =>
    rw [splitPair?_clear htext] at hopen
    cases hopen
    split
    · next hclose =>
      rw [splitPair?_clear haction] at hclose
      cases hclose
    · next hclose =>
      rw [splitPair?_clear haction] at hclose
      cases hclose
      cases parseAction action with
      | error e => rfl
      | ok l =>
        dsimp only
        cases partsFrom (offset + octets text + octets action + 4) rest <;> rfl

/-- Good pieces are read one after the other. -/
theorem partsFrom_spell (proper : ∀ p ∈ pieces, p.Proper) :
    partsFrom offset (spell pieces rest) =
      (partsFrom (offset + octets (spell pieces [])) rest).map (piecesThen pieces) := by
  induction pieces generalizing offset with
  | nil =>
    change partsFrom offset rest = (partsFrom offset rest).map (piecesThen [])
    cases partsFrom offset rest <;> rfl
  | cons p pieces ih =>
    obtain ⟨hp, hpieces⟩ := List.forall_mem_cons.1 proper
    have hoffset : offset + octets p.text + octets p.action + 4 + octets (spell pieces []) =
        offset + octets (spell (p :: pieces) []) := by
      have hopen : (String.singleton '\x7b').utf8ByteSize = 1 := rfl
      have hclose : (String.singleton '\x7d').utf8ByteSize = 1 := rfl
      simp only [octets_eq, spell, String.ofList_append, String.ofList_cons, String.utf8ByteSize_append, hopen, hclose]
      omega
    rw [spell, partsFrom_closed hp.text hp.action, hp.accepted]
    dsimp only
    rw [ih hpieces, hoffset]
    cases partsFrom (offset + octets (spell (p :: pieces) [])) rest <;> rfl

end

section

variable {source : String} {pieces : List Piece} {rest last : List Char} {t : Template} {e : TemplateError}

theorem parse_begins (h : Begins source.toList pieces rest) :
    parse source = (partsFrom (octets (spell pieces [])) rest).map fun parts => ⟨piecesThen pieces parts, false⟩ := by
  rw [parse, h.spelled, partsFrom_spell h.proper, Nat.zero_add]
  cases partsFrom (octets (spell pieces [])) rest <;> rfl

theorem parse_plain (h : Begins source.toList pieces last) (plain : Plain last) :
    parse source = .ok ⟨partsOf pieces last, false⟩ := by
  rw [parse_begins h, partsFrom_plain plain, ← piecesThen_last]
  rfl

theorem parse_refused (h : Begins source.toList pieces rest) (hrefused : Refused rest e) : parse source = .error e := by
  obtain ⟨htext, haction, refuses, more⟩ := hrefused
  rw [parse_begins h, partsFrom_closed htext haction, refuses]
  rfl

theorem parse_unclosed (h : Begins source.toList pieces rest) (hunclosed : Unclosed rest) :
    ∃ n, parse source = .error (.unterminated n) ∧ FirstUnclosed source.toList n := by
  obtain @⟨text, more, htext, never⟩ := hunclosed
  refine ⟨_, ?_, h.firstUnclosed htext never⟩
  rw [parse_begins h, partsFrom_unclosed htext never, octets_spell pieces text]
  rfl

theorem parse_ok_iff :
    parse source = .ok t ↔
      ∃ pieces last, Begins source.toList pieces last ∧ Plain last ∧ t = ⟨partsOf pieces last, false⟩ := by
  constructor
  · intro h
    obtain ⟨pieces, rest, hbegins, hplain | ⟨e, hrefused⟩ | hunclosed⟩ := exists_begins source.toList
    · rw [parse_plain hbegins hplain] at h
      cases h
      exact ⟨pieces, rest, hbegins, hplain, rfl⟩
    · rw [parse_refused hbegins hrefused] at h
      cases h
    · obtain ⟨n, hparse, -⟩ := parse_unclosed hbegins hunclosed
      rw [hparse] at h
      cases h
  · rintro ⟨pieces, last, hbegins, hplain, rfl⟩
    exact parse_plain hbegins hplain

theorem parse_error_iff : parse source = .error e ↔ Fault source.toList e := by
  constructor
  · intro h
    obtain ⟨pieces, rest, hbegins, hplain | ⟨e', hrefused⟩ | hunclosed⟩ := exists_begins source.toList
    · rw [parse_plain hbegins hplain] at h
      cases h
    · rw [parse_refused hbegins hrefused] at h
      cases h
      exact .refused hbegins hrefused
    · obtain ⟨n, hparse, hplace⟩ := parse_unclosed hbegins hunclosed
      rw [hparse] at h
      cases h
      exact .unclosed hbegins hunclosed hplace
  · rintro (⟨hbegins, hrefused⟩ | ⟨hbegins, hunclosed, hplace⟩)
    · exact parse_refused hbegins hrefused
    · obtain ⟨n, hparse, hplace'⟩ := parse_unclosed hbegins hunclosed
      rw [hparse, hplace.unique hplace']

end

/-! ## Parts -/

/-- Whether no text among some parts is empty, and no two of them stand side by side. -/
structure Tidy (parts : List Part) : Prop where
  filled : Part.literal "" ∉ parts
  apart : ∀ a b, ¬ [Part.literal a, .literal b] <:+: parts

theorem Tidy.behind {l : Lookup} {parts : List Part} (h : Tidy parts) (text : List Char) :
    Tidy (literalThen text (.lookup l :: parts)) := by
  have hlookup : Tidy (.lookup l :: parts) := by
    refine ⟨by simp [h.filled], fun a b hpair => ?_⟩
    rcases List.infix_cons_iff.1 hpair with hfirst | hrest
    · simp at hfirst
    · exact h.apart a b hrest
  cases text with
  | nil => exact hlookup
  | cons c text =>
    refine ⟨by simp [literalThen, hlookup.filled], fun a b hpair => ?_⟩
    rcases List.infix_cons_iff.1 hpair with hfirst | hrest
    · simp at hfirst
    · exact hlookup.apart a b hrest

theorem tidy_partsOf (pieces : List Piece) (last : List Char) : Tidy (partsOf pieces last) := by
  rw [← piecesThen_last]
  induction pieces with
  | nil =>
    rw [piecesThen, List.foldr_nil]
    refine ⟨?_, fun a b hpair => ?_⟩
    · rw [literalThen_eq]
      simp
    · have hlen := hpair.length_le
      rw [literalThen] at hlen
      split at hlen <;> simp at hlen
  | cons p pieces ih => exact ih.behind p.text

/-- What a template looks up is what its pieces look up. -/
theorem lookups_partsOf (pieces : List Piece) (last : List Char) (bare : Bool) :
    lookups ⟨partsOf pieces last, bare⟩ = pieces.map (·.lookup) := by
  rw [← piecesThen_last, lookups]
  induction pieces with
  | nil =>
    rw [piecesThen, List.foldr_nil, literalThen]
    split <;> rfl
  | cons p pieces ih =>
    rw [piecesThen, List.foldr_cons, ← piecesThen, literalThen]
    split <;> simp [ih]

/-- A text that opens an action looks something up, if it can be read. -/
theorem lookups_of_parse {source : String} {t : Template} (h : parse source = .ok t) (hopen : ¬ Plain source.toList) :
    t.lookups ≠ [] := by
  obtain ⟨pieces, last, hbegins, hplain, rfl⟩ := parse_ok_iff.1 h
  rw [lookups_partsOf]
  cases pieces with
  | nil => exact absurd (hbegins.spelled ▸ hplain) hopen
  | cons p pieces => simp

/-- **The grammar of templates.** A template can be read exactly if it is good pieces and a last
text that opens no action. Its parts are then the texts of these, but for empty ones, and the
lookups in their order, and no two texts stand side by side. If it cannot be read, the error is
that of the leftmost bad action: of the first one that is closed and refused, or the place of the
first braces that have no closing ones behind them. -/
theorem parse_exact (source : String) :
    (∀ t, parse source = .ok t ↔
      ∃ pieces last, Begins source.toList pieces last ∧ Plain last ∧ t = ⟨partsOf pieces last, false⟩ ∧ Tidy t.parts) ∧
    ∀ e, parse source = .error e ↔ Fault source.toList e := by
  refine ⟨fun t => ?_, fun e => parse_error_iff⟩
  rw [parse_ok_iff]
  constructor
  · rintro ⟨pieces, last, hbegins, hplain, rfl⟩
    exact ⟨pieces, last, hbegins, hplain, rfl, tidy_partsOf pieces last⟩
  · rintro ⟨pieces, last, hbegins, hplain, ht, -⟩
    exact ⟨pieces, last, hbegins, hplain, ht⟩

/-- A place is told in octets. -/
example : parse "é\x7b\x7barg \"a\"\x7d\x7d\x7b\x7b" = .error (.unterminated 13) := by with_unfolding_all rfl

end Courier.Template
