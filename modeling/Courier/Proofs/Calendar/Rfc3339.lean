import Courier.Calendar.Rfc3339
import Courier.Proofs.Number
/-
A moment is read back from its written form by the lenient reader: years of any
number of digits, fractions in groups of three, and leap seconds.

The reader takes digits as far as there are any, so every lemma on a number says
what may stand behind it: no digit.
-/

namespace Courier.Calendar

/-- Whether a moment is one: a date there is, a second of its day, and a fraction
of a second, which may be one or more only in the last second of a minute. -/
structure Moment.Sound (t : Moment) : Prop where
  date : t.date.isValid = true
  second : t.second < 86400
  nanos : t.nanos < 1000000000 ∨ (t.second % 60 = 59 ∧ t.nanos < 2000000000)

theorem monthLength_le (year : Int) (month : Nat) : monthLength year month ≤ 31 := by
  unfold monthLength
  split
  · split <;> omega
  · split <;> omega

/-- The milliseconds since 1970 of any date there is are few enough for a double, with many to spare. -/
theorem Moment.Sound.unixMillis_bounds {t : Moment} (h : t.Sound) :
    2 ^ 49 - 2 ^ 53 < t.unixMillis ∧ t.unixMillis < 2 ^ 53 - 2 ^ 49 := by
  obtain ⟨hdate, hsecond, hnanos⟩ := h
  simp only [Date.isValid, Bool.and_eq_true, decide_eq_true_eq] at hdate
  obtain ⟨⟨⟨⟨⟨hfirst, hlast⟩, -⟩, hmonth⟩, -⟩, hlength⟩ := hdate
  rw [firstYear] at hfirst
  rw [lastYear] at hlast
  have hday := monthLength_le t.date.year t.date.month
  simp only [Moment.unixMillis, Moment.unixSeconds, Date.dayNumber]
  omega

/-- Whether a text does not begin with a digit. -/
def NoDigit (cs : List Char) : Prop := ∀ c r, cs = c :: r → Number.digit? c = none

theorem noDigit_cons {c : Char} (h : Number.digit? c = none) (r : List Char) : NoDigit (c :: r) := by
  rintro _ _ heq
  rw [← (List.cons.inj heq).1]
  exact h

/-! ## Digits -/

theorem length_le_octets (cs : List Char) : cs.length ≤ octets cs := by
  have key (cs : List Char) : ∀ n, n + cs.length ≤ cs.foldl (fun n c => n + c.utf8Size) n := by
    induction cs with
    | nil => simp
    | cons c cs ih =>
      intro n
      have hpos := c.utf8Size_pos
      have hrest := ih (n + c.utf8Size)
      simp only [List.length_cons, List.foldl_cons]
      omega
  simpa [octets] using key cs 0

theorem takeDigits_append {ds rest : List Char} {most count acc n : Nat} (h : Number.readDigits acc ds = some n)
    (hmost : ds.length ≤ most) (hrest : NoDigit rest) :
    takeDigits most count acc (ds ++ rest) = (n, count + ds.length, rest) := by
  induction ds generalizing most count acc with
  | nil =>
    simp only [Number.readDigits, Option.some.injEq] at h
    subst h
    cases rest with
    | nil => simp [takeDigits]
    | cons c r => cases most <;> simp [takeDigits, hrest c r rfl]
  | cons c ds ih =>
    obtain ⟨most, rfl⟩ : ∃ k, most = k + 1 := ⟨most - 1, by simp at hmost; omega⟩
    simp only [Number.readDigits] at h
    cases hc : Number.digit? c with
    | none => simp [hc] at h
    | some d =>
      simp only [hc] at h
      simp only [List.cons_append, takeDigits, hc, ih h (by simpa using hmost), List.length_cons, Prod.mk.injEq,
        true_and, and_true]
      omega

theorem number_append {ds rest : List Char} {least most n : Nat} (h : Number.readDigits 0 ds = some n)
    (hleast : least ≤ ds.length) (hmost : ds.length ≤ most) (hn : n < 2 ^ 63) (hrest : NoDigit rest) :
    number least most (ds ++ rest) = .ok (n, rest) := by
  have hoctets := length_le_octets (ds ++ rest)
  simp only [List.length_append] at hoctets
  simp only [number, takeDigits_append h hmost hrest, Nat.zero_add]
  rw [if_neg (by omega), if_neg (by omega), if_neg (by omega)]

namespace Rfc3339

theorem readDigits_zeros (n : Nat) (ds : List Char) :
    Number.readDigits 0 (List.replicate n '0' ++ ds) = Number.readDigits 0 ds := by
  induction n with
  | zero => rfl
  | succ n ih => simpa [List.replicate_succ, Number.readDigits, Number.digit?] using ih

theorem readDigits_padded (width n : Nat) : Number.readDigits 0 (padded width n) = some n := by
  rw [padded, readDigits_zeros, Number.readDigits_digits]

theorem length_padded {width n : Nat} (hw : 0 < width) (h : n < 10 ^ width) : (padded width n).length = width := by
  have := Number.length_digits_le hw h
  simp only [padded, List.length_append, List.length_replicate]
  omega

theorem le_length_padded (width n : Nat) : width ≤ (padded width n).length := by
  simp only [padded, List.length_append, List.length_replicate]
  omega

/-- A number of full width is taken whole. -/
theorem number_padded {least most width n : Nat} {rest : List Char} (hw : 0 < width) (h : n < 10 ^ width)
    (hleast : least ≤ width) (hmost : width ≤ most) (hn : n < 2 ^ 63) (hrest : NoDigit rest) :
    number least most (padded width n ++ rest) = .ok (n, rest) := by
  have hlen := length_padded hw h
  exact number_append (readDigits_padded width n) (by omega) (by omega) hn hrest

theorem padded_cons (width n : Nat) : ∃ d r, padded width n = Number.digitChar d :: r ∧ d < 10 := by
  obtain ⟨d, cs, hd, hlt, -⟩ := Number.digits_cons n
  rw [padded, hd]
  cases width - (Number.digitChar d :: cs).length with
  | zero => exact ⟨d, cs, rfl, hlt⟩
  | succ k => exact ⟨0, _, rfl, by omega⟩

theorem isBlank_digitChar {d : Nat} (h : d < 10) : Text.isBlank (Number.digitChar d) = false := by
  revert d; decide

theorem trimStart_padded (width n : Nat) (rest : List Char) :
    Text.trimStart (padded width n ++ rest) = padded width n ++ rest := by
  obtain ⟨d, r, hd, hlt⟩ := padded_cons width n
  rw [hd, List.cons_append]
  exact Text.trimStart_of_head (isBlank_digitChar hlt)

theorem numberIn_padded {lo hi n : Nat} {rest : List Char} (hlo : lo ≤ n) (hn : n ≤ hi) (hhi : hi < 100)
    (hrest : NoDigit rest) : numberIn 1 2 lo hi (padded 2 n ++ rest) = .ok (n, rest) := by
  have hnum : number 1 2 (padded 2 n ++ rest) = .ok (n, rest) :=
    number_padded (by omega) (by omega) (by omega) (by omega) (by omega) hrest
  simp [numberIn, hnum, hlo, hn, bind, Except.bind]

/-! ## Fields -/

variable {f : Fields} {rest : List Char}

theorem yearIn_valid {y : Int} (h : firstYear ≤ y ∧ y ≤ lastYear) : yearIn y rest = .ok (y, rest) := by
  simp only [firstYear, lastYear] at h
  rw [yearIn, if_pos (by omega)]

/-- A year is read back, with or without a sign. -/
theorem signedYear_writeYear {y : Int} (h : firstYear ≤ y ∧ y ≤ lastYear) (hrest : NoDigit rest) :
    signedYear (writeYear y ++ rest) = .ok (y, rest) := by
  have hy := h
  simp only [firstYear, lastYear] at hy
  unfold writeYear
  split
  · next hfour =>
    have hnum : number 1 4 (padded 4 y.toNat ++ rest) = .ok (y.toNat, rest) :=
      number_padded (by omega) (by omega) (by omega) (by omega) (by omega) hrest
    obtain ⟨d, r, hd, hlt⟩ := padded_cons 4 y.toNat
    have hminus : Number.digitChar d ≠ '-' := Number.digitChar_ne hlt (by decide)
    have hplus : Number.digitChar d ≠ '+' := Number.digitChar_ne hlt (by decide)
    rw [hd, List.cons_append] at hnum ⊢
    unfold signedYear
    split
    · next heq => exact absurd (List.cons.inj heq).1 hminus
    · next heq => exact absurd (List.cons.inj heq).1 hplus
    · simp only [hnum, bind, Except.bind, Int.toNat_of_nonneg hfour.1, yearIn_valid h]
  · have hnum : number 1 (padded 4 y.natAbs ++ rest).length (padded 4 y.natAbs ++ rest) = .ok (y.natAbs, rest) := by
      refine number_append (readDigits_padded 4 y.natAbs) ?_ (by simp) (by omega) hrest
      have := le_length_padded 4 y.natAbs
      omega
    by_cases hneg : y < 0
    · have hback : -(y.natAbs : Int) = y := by omega
      simp only [if_pos hneg, List.cons_append, signedYear, hnum, bind, Except.bind, hback, yearIn_valid h]
    · have hback : (y.natAbs : Int) = y := by omega
      simp only [if_neg hneg, List.cons_append, signedYear, hnum, bind, Except.bind, hback, yearIn_valid h]

theorem trimStart_writeYear (y : Int) : Text.trimStart (writeYear y ++ rest) = writeYear y ++ rest := by
  unfold writeYear
  split
  · exact trimStart_padded 4 y.toNat rest
  · split <;> exact Text.trimStart_of_head (by decide)

/-- The digits of a fraction, as many groups of them as are needed. -/
theorem fraction_group (width : Nat) {n : Nat} (hw : 0 < width) (hw9 : width ≤ 9) (hn : n < 10 ^ width) (r : List Char) :
    fraction (padded width n ++ 'Z' :: r) = .ok (n * 10 ^ (9 - width), 'Z' :: r) := by
  have hlt : n < 2 ^ 63 := by
    have : 10 ^ width ≤ 10 ^ 9 := Nat.pow_le_pow_right (by omega) hw9
    omega
  have hnum : number 1 9 (padded width n ++ 'Z' :: r) = .ok (n, 'Z' :: r) :=
    number_padded hw hn (by omega) hw9 hlt (noDigit_cons (by decide) r)
  have hlen := length_padded hw hn
  have hused : (padded width n ++ 'Z' :: r).length - ('Z' :: r).length = width := by
    simp only [List.length_append]; omega
  have hdrop : ('Z' :: r).dropWhile Number.isDigit = 'Z' :: r := by simp [List.dropWhile, Number.isDigit, Number.digit?]
  simp only [fraction, hnum, bind, Except.bind, hused, hdrop]

/-- The fields with a fraction of a second, if there is one. -/
def withFraction (f : Fields) (nanos : Nat) : Fields := if nanos = 0 then f else { f with nanos := some nanos }

theorem take_fraction {nanos : Nat} (h : nanos < 1000000000) (r : List Char) :
    Directive.fraction.take f (writeFraction nanos ++ 'Z' :: r) = .ok (withFraction f nanos, 'Z' :: r) := by
  unfold writeFraction withFraction
  split
  · rfl
  split
  · next hmod =>
    have hfrac := fraction_group 3 (n := nanos / 1000000) (by omega) (by omega) (by omega) r
    have hback : nanos / 1000000 * 10 ^ (9 - 3) = nanos := by omega
    simp only [List.cons_append, Directive.take, hfrac, hback, bind, Except.bind]
  split
  · next hmod =>
    have hfrac := fraction_group 6 (n := nanos / 1000) (by omega) (by omega) (by omega) r
    have hback : nanos / 1000 * 10 ^ (9 - 6) = nanos := by omega
    simp only [List.cons_append, Directive.take, hfrac, hback, bind, Except.bind]
  · have hfrac := fraction_group 9 (n := nanos) (by omega) (by omega) (by omega) r
    have hback : nanos * 10 ^ (9 - 9) = nanos := by omega
    simp only [List.cons_append, Directive.take, hfrac, hback, bind, Except.bind]

theorem takeAll_cons {d : Directive} {ds : List Directive} {g : Fields} {cs r : List Char}
    (h : d.take f cs = .ok (g, r)) : takeAll f cs (d :: ds) = takeAll g r ds := by
  simp only [takeAll, h]

theorem take_blanks {c : Char} (h : Text.isBlank c = false) (r : List Char) :
    Directive.blanks.take f (c :: r) = .ok (f, c :: r) := by
  simp only [Directive.take, Text.trimStart_of_head h]

theorem take_literal (c : Char) (r : List Char) : (Directive.literal c).take f (c :: r) = .ok (f, r) := by
  simp [Directive.take, expect, bind, Except.bind]

/-- A date is taken whole. -/
theorem takeAll_date {y : Int} {m d : Nat} (hy : firstYear ≤ y ∧ y ≤ lastYear) (hm : 1 ≤ m ∧ m ≤ 12)
    (hd : 1 ≤ d ∧ d ≤ 31) (hrest : NoDigit rest) :
    takeAll f (writeYear y ++ '-' :: (padded 2 m ++ '-' :: (padded 2 d ++ rest))) dateDirectives =
      .ok ({ f with year := some y, month := some m, day := some d }, rest) := by
  have hdash (r : List Char) : NoDigit ('-' :: r) := noDigit_cons (by decide) r
  have hyear := signedYear_writeYear hy (hdash (padded 2 m ++ '-' :: (padded 2 d ++ rest)))
  have hmonth := numberIn_padded hm.1 hm.2 (by omega) (hdash (padded 2 d ++ rest))
  have hday := numberIn_padded hd.1 hd.2 (by omega) hrest
  rw [dateDirectives,
    takeAll_cons (g := { f with year := some y }) (r := '-' :: (padded 2 m ++ '-' :: (padded 2 d ++ rest))),
    takeAll_cons (take_blanks (by decide) _), takeAll_cons (take_literal _ _),
    takeAll_cons (g := { f with year := some y, month := some m }) (r := '-' :: (padded 2 d ++ rest)),
    takeAll_cons (take_blanks (by decide) _), takeAll_cons (take_literal _ _),
    takeAll_cons (g := { f with year := some y, month := some m, day := some d }) (r := rest), takeAll]
  · simp only [Directive.take, trimStart_padded, hday, bind, Except.bind]
  · simp only [Directive.take, trimStart_padded, hmonth, bind, Except.bind]
  · simp only [Directive.take, trimStart_writeYear, hyear, bind, Except.bind]

/-- A time is taken whole, up to the letter behind it. -/
theorem takeAll_time {h m s nanos : Nat} (hh : h ≤ 23) (hm : m ≤ 59) (hs : s ≤ 60) (hn : nanos < 1000000000) :
    takeAll f (padded 2 h ++ ':' :: (padded 2 m ++ ':' :: (padded 2 s ++ (writeFraction nanos ++ ['Z'])))) timeDirectives =
      .ok (withFraction
        { f with afternoon := some (12 ≤ h), hour := some (h % 12), minute := some m, second := some s } nanos,
        ['Z']) := by
  have hcolon (r : List Char) : NoDigit (':' :: r) := noDigit_cons (by decide) r
  have hfraction : NoDigit (writeFraction nanos ++ ['Z']) := by
    unfold writeFraction
    split
    · exact noDigit_cons (by decide) _
    split
    · exact noDigit_cons (by decide) _
    split <;> exact noDigit_cons (by decide) _
  have hhour := numberIn_padded (Nat.zero_le h) hh (by omega)
    (hcolon (padded 2 m ++ ':' :: (padded 2 s ++ (writeFraction nanos ++ ['Z']))))
  have hminute := numberIn_padded (Nat.zero_le m) hm (by omega) (hcolon (padded 2 s ++ (writeFraction nanos ++ ['Z'])))
  have hsecond := numberIn_padded (Nat.zero_le s) hs (by omega) hfraction
  rw [timeDirectives,
    takeAll_cons (g := { f with afternoon := some (12 ≤ h), hour := some (h % 12) })
      (r := ':' :: (padded 2 m ++ ':' :: (padded 2 s ++ (writeFraction nanos ++ ['Z'])))),
    takeAll_cons (take_blanks (by decide) _), takeAll_cons (take_literal _ _),
    takeAll_cons (g := { f with afternoon := some (12 ≤ h), hour := some (h % 12), minute := some m })
      (r := ':' :: (padded 2 s ++ (writeFraction nanos ++ ['Z']))),
    takeAll_cons (take_blanks (by decide) _), takeAll_cons (take_literal _ _),
    takeAll_cons
      (g := { f with afternoon := some (12 ≤ h), hour := some (h % 12), minute := some m, second := some s })
      (r := writeFraction nanos ++ ['Z']),
    takeAll_cons (take_fraction hn []), takeAll_cons (take_blanks (by decide) _), takeAll]
  · simp only [Directive.take, trimStart_padded, hsecond, bind, Except.bind]
  · simp only [Directive.take, trimStart_padded, hminute, bind, Except.bind]
  · simp only [Directive.take, trimStart_padded, hhour, bind, Except.bind]

/-- The fields that a written moment has. -/
def fieldsOf (t : Moment) : Fields :=
  { withFraction
      { year := some t.date.year, month := some t.date.month, day := some t.date.day,
        afternoon := some (12 ≤ t.second / 3600), hour := some (t.second / 3600 % 12),
        minute := some (t.second / 60 % 60),
        second := some (t.second % 60 + if 1000000000 ≤ t.nanos then 1 else 0) } (t.nanos % 1000000000)
    with offset := some 0 }

theorem date_fieldsOf {t : Moment} (h : t.Sound) : (fieldsOf t).date = .ok t.date := by
  unfold fieldsOf withFraction
  split <;> simp [Fields.date, h.date, bind, Except.bind]

/-- The second sixty is the second before with a fraction of one or more. -/
theorem time_fieldsOf {t : Moment} (h : t.Sound) : (fieldsOf t).time = .ok (t.second, t.nanos) := by
  have hsecond := h.second
  have hstart : (if 12 ≤ t.second / 3600 then 12 else 0) + t.second / 3600 % 12 = t.second / 3600 := by
    split <;> omega
  have hday : t.second / 3600 * 3600 + t.second / 60 % 60 * 60 + t.second % 60 = t.second := by omega
  have hnanos := h.nanos
  unfold fieldsOf withFraction
  by_cases hleap : 1000000000 ≤ t.nanos
  · have hlast : t.second % 60 = 59 := by omega
    have hback : t.nanos % 1000000000 + 1000000000 = t.nanos := by omega
    have hsixty : t.second / 3600 * 3600 + t.second / 60 % 60 * 60 + 59 = t.second := by omega
    split
    · next hzero => simp [Fields.time, hstart, hlast, hsixty]; omega
    · simp [Fields.time, hstart, hlast, hsixty, hback]
  · have hsame : t.nanos % 1000000000 = t.nanos := by omega
    have hne : t.second % 60 ≠ 60 := by omega
    split
    · next hzero => simp [Fields.time, hstart, hne, hday]; omega
    · simp [Fields.time, hstart, hne, hday, hsame]

theorem moment_fieldsOf {t : Moment} (h : t.Sound) : (fieldsOf t).moment = .ok t := by
  have hoffset : (fieldsOf t).offset = some 0 := by unfold fieldsOf; rfl
  have hlocal : (fieldsOf t).localTime = .ok t := by
    simp only [Fields.localTime, date_fieldsOf h, time_fieldsOf h, bind, Except.bind]
  have hsame : t.ofLocal 0 = t := by
    have := h.second
    simp only [Moment.ofLocal]
    rw [if_neg (by omega), if_neg (by omega)]
    simp
  simp [Fields.moment, hoffset, hlocal, hsame, h.date, bind, Except.bind]

/-- **A moment is read back from its written form.** -/
theorem read_write {t : Moment} (h : t.Sound) : read (write t) = .ok t := by
  have hvalid := h.date
  simp only [Date.isValid, Bool.and_eq_true, decide_eq_true_eq] at hvalid
  obtain ⟨⟨⟨⟨⟨hfirst, hlast⟩, hm1⟩, hm12⟩, hd1⟩, hdlen⟩ := hvalid
  have hd31 : t.date.day ≤ 31 := by
    refine Nat.le_trans hdlen ?_
    unfold monthLength
    split
    · split <;> omega
    · split <;> omega
  have hsec := h.second
  have hnan := h.nanos
  have hsixty : t.second % 60 + (if 1000000000 ≤ t.nanos then 1 else 0) ≤ 60 := by split <;> omega
  have hdate (r : List Char) := takeAll_date (f := {}) ⟨hfirst, hlast⟩ ⟨hm1, hm12⟩ ⟨hd1, hd31⟩
    (noDigit_cons (c := 'T') (by decide) r)
  have htime (f : Fields) := takeAll_time (f := f) (h := t.second / 3600) (m := t.second / 60 % 60) (by omega)
    (by omega) hsixty (Nat.mod_lt t.nanos (by omega))
  have hseparator (r : List Char) : separator ('T' :: r) = .ok r := by simp [separator]
  have hzone : relaxedOffset ['Z'] = .ok (0, []) := by rfl
  simp only [write, writeTime, List.append_assoc, List.cons_append, read, hdate, bind, Except.bind]
  simp only [List.isEmpty_cons, Bool.false_eq_true, if_false, hseparator, htime, hzone, Text.trimStart, List.isEmpty_nil,
    Bool.not_true]
  exact moment_fieldsOf h

end Rfc3339
end Courier.Calendar
