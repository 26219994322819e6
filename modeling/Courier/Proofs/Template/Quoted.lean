import Courier.Proofs.Template.Grammar
import Courier.Proofs.Text.Blank
/-
Quoted arguments. What stands between the quotes of an argument is characters for themselves and
characters behind a backslash, and the closing quote ends it. The end of an action is looked for
before any of that is read. Still every text can be the argument of an action: with a backslash in
front of each quote, backslash and closing brace, nothing in it ends the argument or the action.
-/

namespace Courier.Template

open Text (Blank Trimmed trim)

/-- What stands between the quotes for a value: a quote or a backslash is there only behind a
backslash, and a backslash always has a character behind it. -/
inductive Literal : List Char → List Char → Prop
  | nil : Literal [] []
  | plain {c : Char} {body value : List Char} (hquote : c ≠ '"') (hbackslash : c ≠ '\\') (h : Literal body value) :
    Literal (c :: body) (c :: value)
  | escaped (c : Char) {body value : List Char} (h : Literal body value) : Literal ('\\' :: c :: body) (c :: value)

/-- A character as it is written in an argument. -/
def escapeChar (c : Char) : List Char := if c = '"' ∨ c = '\\' ∨ c = '\x7d' then ['\\', c] else [c]

/-- A text as it is written in an argument. -/
def escape (s : String) : String := String.ofList (s.toList.flatMap escapeChar)

/-- An action as it is written, with blanks at its ends and in front of its argument. -/
def written (function before between after s : String) : String :=
  "\x7b\x7b" ++ before ++ function ++ between ++ "\"" ++ escape s ++ "\"" ++ after ++ "\x7d\x7d"

/-! ## Reading what is quoted -/

section

variable {acc body value tail cs : List Char} {c : Char}

theorem quotedBody_plain (hquote : c ≠ '"') (hbackslash : c ≠ '\\') :
    quotedBody acc (c :: cs) = quotedBody (c :: acc) cs := by
  rw [quotedBody] <;> simp_all

theorem quotedBody_literal (h : Literal body value) (htail : Blank tail) :
    quotedBody acc (body ++ '"' :: tail) = some (acc.reverse ++ value) := by
  induction h generalizing acc with
  | nil => simp [quotedBody, Text.trim_eq_nil_iff.2 htail]
  | plain hquote hbackslash h ih => simp [quotedBody_plain hquote hbackslash, ih]
  | escaped c h ih => simp [quotedBody, ih]

theorem literal_of_quotedBody (h : quotedBody acc cs = some value) :
    ∃ body own tail, cs = body ++ '"' :: tail ∧ Literal body own ∧ Blank tail ∧ value = acc.reverse ++ own := by
  fun_induction quotedBody acc cs with
  | case1 => cases h
  | case2 acc c r ih =>
    obtain ⟨body, own, tail, rfl, hbody, htail, rfl⟩ := ih h
    exact ⟨'\\' :: c :: body, c :: own, tail, rfl, .escaped c hbody, htail, by simp⟩
  | case3 => cases h
  | case4 acc r hblank =>
    cases h
    exact ⟨[], [], r, rfl, .nil, Text.trim_eq_nil_iff.1 hblank, by simp⟩
  | case5 => cases h
  | case6 acc c r h₁ h₂ h₃ ih =>
    have hquote : c ≠ '"' := fun hc => h₃ hc
    have hbackslash : c ≠ '\\' := by
      rintro rfl
      cases r with
      | nil => exact h₂ rfl rfl
      | cons d r => exact h₁ d r rfl rfl
    obtain ⟨body, own, tail, rfl, hbody, htail, rfl⟩ := ih h
    exact ⟨c :: body, c :: own, tail, rfl, .plain hquote hbackslash hbody, htail, by simp⟩

/-- What is quoted is read from its quotes, with nothing but blanks behind them. -/
theorem parseQuoted_eq_some_iff :
    parseQuoted cs = some value ↔ ∃ body tail, cs = '"' :: (body ++ '"' :: tail) ∧ Literal body value ∧ Blank tail := by
  constructor
  · intro h
    unfold parseQuoted at h
    split at h
    · obtain ⟨body, own, tail, rfl, hbody, htail, rfl⟩ := literal_of_quotedBody h
      exact ⟨body, tail, rfl, hbody, htail⟩
    · cases h
  · rintro ⟨body, tail, rfl, hbody, htail⟩
    exact quotedBody_literal hbody htail

end

/-! ## Writing what is quoted -/

section

variable {s tail : List Char}

theorem literal_escape (s : List Char) : Literal (s.flatMap escapeChar) s := by
  induction s with
  | nil => exact .nil
  | cons c r ih =>
    rw [List.flatMap_cons, escapeChar]
    split
    · exact .escaped c ih
    · next h =>
      rw [not_or, not_or] at h
      exact .plain h.1 h.2.1 ih

/-- A character in front of a text makes no doubled one if one of the two that meet there is another. -/
theorem Clear.cons {c x : Char} (h : Clear c s) (hapart : x ≠ c ∨ ∃ y r, s = y :: r ∧ y ≠ c) : Clear c (x :: s) := by
  refine clear_cons (r := []).2 ⟨fun hpair => ?_, h⟩
  obtain ⟨hx, hpair⟩ := List.cons_prefix_cons.1 hpair
  rcases hapart with hne | ⟨y, r, rfl, hne⟩
  · exact hne hx.symm
  · exact hne (List.cons_prefix_cons.1 hpair).1.symm

theorem Clear.append {c : Char} {front : List Char} (h : Clear c s) (hfront : c ∉ front) : Clear c (front ++ s) := by
  induction front with
  | nil => exact h
  | cons x front ih =>
    rw [List.mem_cons, not_or] at hfront
    exact (ih hfront.2).cons (.inl (Ne.symm hfront.1))

/-- Nothing in what is written for a text closes an action, as no closing brace stands first or behind another one. -/
theorem clear_escape (h : Clear '\x7d' ('"' :: tail)) (s : List Char) :
    Clear '\x7d' (s.flatMap escapeChar ++ '"' :: tail) ∧
      ∃ y r, s.flatMap escapeChar ++ '"' :: tail = y :: r ∧ y ≠ '\x7d' := by
  induction s with
  | nil => exact ⟨h, '"', tail, rfl, by decide⟩
  | cons c r ih =>
    obtain ⟨hclear, hhead⟩ := ih
    rw [List.flatMap_cons, List.append_assoc, escapeChar]
    split
    · exact ⟨(hclear.cons (.inr hhead)).cons (.inl (by decide)), '\\', _, rfl, by decide⟩
    · next hplain =>
      rw [not_or, not_or] at hplain
      exact ⟨hclear.cons (.inl hplain.2.2), c, _, rfl, hplain.2.2⟩

end

/-! ## Actions -/

section

variable {function before between after body : List Char}

theorem notMem_of_blank (h : Blank before) : '\x7d' ∉ before := fun hmem => absurd (h _ hmem) (by decide)

/-- A text that ends with a quote ends with no blank. -/
theorem trimmed_quote (h : ∀ c ∈ body.head?, Text.isBlank c = false) : Trimmed (body ++ ['"']) where
  start c hc := by
    cases body with
    | nil =>
      obtain rfl : '"' = c := Option.some.inj hc
      decide
    | cons d body => exact h c hc
  last c hc := by
    obtain rfl : '"' = c := by simpa using hc
    decide

theorem trim_argument (hbetween : Blank between) (body : List Char) :
    trim (between ++ '"' :: (body ++ ['"'])) = '"' :: (body ++ ['"']) := by
  have htrimmed : Trimmed ('"' :: body ++ ['"']) := trimmed_quote fun c hc => by
    obtain rfl : '"' = c := Option.some.inj hc
    decide
  have haround := Text.trim_around htrimmed hbetween (List.forall_mem_nil _)
  rwa [List.append_nil] at haround

/-- The function of an action ends at the first blank behind it, and its argument at its quotes. -/
theorem splitAction_written {x : Char} (hbefore : Blank before) (hfunction : ∀ c ∈ x :: function, Text.isBlank c = false)
    (hbetween : Blank between) (hne : between ≠ []) (hafter : Blank after) (body : List Char) :
    splitAction (before ++ (x :: function ++ (between ++ '"' :: (body ++ '"' :: after)))) =
      (x :: function, '"' :: (body ++ ['"'])) := by
  have htrimmed : Trimmed (x :: function ++ (between ++ '"' :: body) ++ ['"']) :=
    trimmed_quote (by simpa using hfunction x List.mem_cons_self)
  have htrim : trim (before ++ (x :: function ++ (between ++ '"' :: (body ++ '"' :: after)))) =
      x :: function ++ (between ++ '"' :: (body ++ ['"'])) := by
    simpa using Text.trim_around htrimmed hbefore hafter
  have hname : (x :: function ++ (between ++ '"' :: (body ++ ['"']))).takeWhile (fun c => !Text.isBlank c) = x :: function := by
    cases between with
    | nil => exact absurd rfl hne
    | cons b between =>
      rw [List.takeWhile_append_of_pos fun c hc => by simp [hfunction c hc]]
      simp [hbetween b List.mem_cons_self]
  rw [splitAction, htrim, hname, List.drop_left, trim_argument hbetween]

/-- A template that is one action is what the action looks up. -/
theorem parse_action {source : String} {action : List Char} (haction : Clear '\x7d' action)
    (hsource : source.toList = '\x7b' :: '\x7b' :: (action ++ ['\x7d', '\x7d'])) :
    parse source = (parseAction action).map fun l => ⟨[.lookup l], false⟩ := by
  cases hread : parseAction action with
  | error e =>
    have hbegins : Begins source.toList [] source.toList := ⟨rfl, by simp⟩
    have hrefused : Refused source.toList e := hsource ▸ Refused.intro clear_nil haction hread []
    rw [parse_refused hbegins hrefused]
    rfl
  | ok l =>
    have hbegins : Begins source.toList [⟨[], action, l⟩] [] :=
      ⟨hsource, fun p hp => List.mem_singleton.1 hp ▸ ⟨clear_nil, haction, hread⟩⟩
    rw [parse_plain hbegins (by simp [Plain])]
    simp [partsOf, Piece.parts, Except.map]

end

section

variable {before between after : String}

/-- An action that is well written is read as its function and its argument. -/
theorem parse_written (x : Char) (name : List Char) (hname : (x :: name).any Text.isBlank = false)
    (hbrace : '\x7d' ∉ x :: name) (hbefore : Blank before.toList) (hbetween : Blank between.toList) (hne : between ≠ "")
    (hafter : Blank after.toList) (s : String) :
    ∃ action, splitAction action = (x :: name, '"' :: (s.toList.flatMap escapeChar ++ ['"'])) ∧
      parse (written (String.ofList (x :: name)) before between after s) =
        (parseAction action).map fun l => ⟨[.lookup l], false⟩ := by
  have hend : Clear '\x7d' ('"' :: after.toList) := by
    have hclear := (clear_nil (c := '\x7d')).append (notMem_of_blank hafter)
    rw [List.append_nil] at hclear
    exact hclear.cons (.inl (by decide))
  have hargument := (clear_escape hend s.toList).1.cons (.inl (by decide) : '"' ≠ '\x7d' ∨ _)
  have haction := ((hargument.append (notMem_of_blank hbetween)).append hbrace).append (notMem_of_blank hbefore)
  have hname : ∀ c ∈ x :: name, Text.isBlank c = false := fun c hc => Bool.eq_false_iff.2 (List.any_eq_false.1 hname c hc)
  refine ⟨_, splitAction_written hbefore hname hbetween (by simpa using hne) hafter _, parse_action haction ?_⟩
  simp [written, escape]

theorem quoted_escape (s : List Char) : parseQuoted ('"' :: (s.flatMap escapeChar ++ ['"'])) = some s :=
  parseQuoted_eq_some_iff.2 ⟨_, [], rfl, literal_escape s, List.forall_mem_nil _⟩

theorem parse_arg (hbefore : Blank before.toList) (hbetween : Blank between.toList) (hne : between ≠ "")
    (hafter : Blank after.toList) (s : String) :
    parse (written "arg" before between after s) = .ok ⟨[.lookup (.arg s)], false⟩ := by
  obtain ⟨action, hsplit, hparse⟩ :=
    parse_written 'a' ['r', 'g'] (by decide) (by decide) hbefore hbetween hne hafter s
  have hread : parseAction action = .ok (.arg s) := by
    simp [parseAction, hsplit, quoted_escape]
  rw [hread] at hparse
  exact hparse

theorem parse_webhook (hbefore : Blank before.toList) (hbetween : Blank between.toList) (hne : between ≠ "")
    (hafter : Blank after.toList) (s : String) :
    parse (written "webhook" before between after s) =
      (FieldPath.parse s).map fun path => ⟨[.lookup (.webhook path)], false⟩ := by
  obtain ⟨action, hsplit, hparse⟩ :=
    parse_written 'w' ['e', 'b', 'h', 'o', 'o', 'k'] (by decide) (by decide) hbefore hbetween hne hafter s
  have hread : parseAction action = (FieldPath.parse s).map .webhook := by
    simp [parseAction, hsplit, quoted_escape, FieldPath.parse]
  rw [hread] at hparse
  cases hpath : FieldPath.parse s <;> rw [hpath] at hparse <;> exact hparse

end

/-- **Every text can be an argument.** With a backslash in front of each quote, backslash and closing brace, and whatever
blanks around the parts of the action, an argument is looked up by exactly the text, and a path of the webhook by what the
text is read as. What is quoted is never more than one argument: nothing but blanks stands behind its closing quote, and
every backslash in it has a character behind it. -/
theorem parse_escaped :
    (∀ s before between after : String, Blank before.toList → Blank between.toList → between ≠ "" → Blank after.toList →
      parse (written "arg" before between after s) = .ok ⟨[.lookup (.arg s)], false⟩ ∧
      parse (written "webhook" before between after s) =
        (FieldPath.parse s).map fun path => ⟨[.lookup (.webhook path)], false⟩) ∧
    ∀ argument value, parseQuoted argument = some value ↔
      ∃ body tail, argument = '"' :: (body ++ '"' :: tail) ∧ Literal body value ∧ Blank tail :=
  ⟨fun s _ _ _ hbefore hbetween hne hafter =>
    ⟨parse_arg hbefore hbetween hne hafter s, parse_webhook hbefore hbetween hne hafter s⟩,
    fun _ _ => parseQuoted_eq_some_iff⟩

/-- A text that would end its argument and its action, were it written as it is. -/
def sampleName : String := "a\"b\\\x7d\x7d"

theorem sample_parse_escaped :
    written "arg" "" "\t" " " sampleName = "\x7b\x7barg\t\"a\\\"b\\\\\\\x7d\\\x7d\" \x7d\x7d" ∧
    Blank "\t".toList ∧ Blank " ".toList ∧
    parse (written "arg" "" "\t" " " sampleName) = .ok ⟨[.lookup (.arg sampleName)], false⟩ := by
  have hread := parse_escaped.1 sampleName "" "\t" " " (by decide) (by decide) (by decide) (by decide)
  exact ⟨by decide, by decide, by decide, hread.1⟩

end Courier.Template
