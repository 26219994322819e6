import Courier.Proofs.Calendar.Rfc3339
import Courier.Proofs.Outcome
/-
What a reader of dates can give: a moment there is, whatever stands in the text. Each
directive notes a number within its bounds, so the fields make a second of a day, and an
offset of whole minutes leaves a leap second at the end of its minute.
-/

namespace Courier.Calendar

/-- Whether the fields of a time are within their bounds. -/
structure Fields.Bounded (f : Fields) : Prop where
  hour : ∀ n ∈ f.hour, n < 12
  minute : ∀ n ∈ f.minute, n ≤ 59
  second : ∀ n ∈ f.second, n ≤ 60
  nanos : ∀ n ∈ f.nanos, n < 1000000000

/-! ## Numbers -/

theorem takeDigits_lt {most count acc : Nat} {cs r : List Char} {n k : Nat} (h : takeDigits most count acc cs = (n, k, r)) :
    k + r.length = count + cs.length ∧ count ≤ k ∧ k ≤ count + most ∧ n < (acc + 1) * 10 ^ (k - count) := by
  induction cs generalizing most count acc with
  | nil =>
    simp only [takeDigits, Prod.mk.injEq] at h
    obtain ⟨rfl, rfl, rfl⟩ := h
    simp
  | cons c cs ih =>
    cases most with
    | zero =>
      simp only [takeDigits, Prod.mk.injEq] at h
      obtain ⟨rfl, rfl, rfl⟩ := h
      simp
    | succ most =>
      simp only [takeDigits] at h
      split at h
      · next d hd =>
        obtain ⟨hlength, hle, hmost, hlt⟩ := ih h
        have hd := Number.digit?_lt hd
        have hpow : (10 : Nat) ^ (k - count) = 10 * 10 ^ (k - (count + 1)) := by
          rw [← Nat.pow_succ', show k - count = k - (count + 1) + 1 by omega]
        refine ⟨by simp only [List.length_cons]; omega, by omega, by omega, ?_⟩
        rw [hpow, ← Nat.mul_assoc]
        exact Nat.lt_of_lt_of_le hlt (Nat.mul_le_mul_right _ (by omega))
      · simp only [Prod.mk.injEq] at h
        obtain ⟨rfl, rfl, rfl⟩ := h
        simp

/-- Nine digits of a fraction are below a second. -/
theorem fraction_lt {cs r : List Char} {n : Nat} (h : fraction cs = .ok (n, r)) : n < 10 ^ 9 := by
  obtain ⟨⟨m, rest⟩, hnumber, he⟩ := bind_ok.1 h
  cases he
  unfold number at hnumber
  split at hnumber
  · cases hnumber
  rcases htake : takeDigits 9 0 0 cs with ⟨m', k, rest'⟩
  rw [htake] at hnumber
  dsimp only at hnumber
  split at hnumber
  · cases hnumber
  split at hnumber
  · cases hnumber
  cases hnumber
  obtain ⟨hlength, -, hmost, hlt⟩ := takeDigits_lt htake
  have hused : cs.length - rest.length = k := by omega
  rw [hused]
  have hpow : (10 : Nat) ^ k * 10 ^ (9 - k) = 10 ^ 9 := by
    rw [← Nat.pow_add, Nat.add_sub_of_le (by omega)]
  calc m * 10 ^ (9 - k) < 10 ^ k * 10 ^ (9 - k) := Nat.mul_lt_mul_of_pos_right (by simpa using hlt) (Nat.pow_pos (by omega))
    _ = 10 ^ 9 := hpow

theorem numberIn_le {least most lo hi n : Nat} {cs r : List Char} (h : numberIn least most lo hi cs = .ok (n, r)) : n ≤ hi := by
  obtain ⟨⟨m, rest⟩, -, he⟩ := bind_ok.1 h
  dsimp only at he
  split at he
  · next hbounds =>
    cases he
    exact hbounds.2
  · cases he

/-! ## Offsets -/

theorem offsetAfterSign_minutes {negative missing : Bool} {separator : List Char → Except DateError (List Char)}
    {cs r : List Char} {s : Int} (h : offsetAfterSign negative missing separator cs = .ok (s, r)) : s % 60 = 0 := by
  obtain ⟨⟨⟨x, y⟩, r₁⟩, -, h⟩ := bind_ok.1 h
  obtain ⟨r₂, -, h⟩ := bind_ok.1 h
  obtain ⟨⟨m, r₃⟩, -, h⟩ := bind_ok.1 h
  cases h
  cases negative <;> simp <;> omega

theorem zoneOffset_minutes {zulu missing minus : Bool} {separator : List Char → Except DateError (List Char)}
    {cs r : List Char} {s : Int} (h : zoneOffset zulu missing minus separator cs = .ok (s, r)) : s % 60 = 0 := by
  unfold zoneOffset at h
  split at h
  · cases h
  split at h
  · cases h
    rfl
  split at h
  · exact offsetAfterSign_minutes h
  split at h
  · exact offsetAfterSign_minutes h
  · cases h

/-! ## Fields -/

namespace Fields.Bounded

variable {f g : Fields} {cs r : List Char}

/-- Every directive keeps to the bounds. -/
theorem take {d : Directive} (hf : f.Bounded) (h : d.take f cs = .ok (g, r)) : g.Bounded := by
  cases d with
  | literal c =>
    obtain ⟨r', -, he⟩ := bind_ok.1 h
    cases he
    exact hf
  | blanks | zoneName =>
    cases h
    exact hf
  | year | yearOfCentury | month | monthName | day | offset =>
    obtain ⟨⟨n, r'⟩, -, he⟩ := bind_ok.1 h
    cases he
    exact ⟨hf.hour, hf.minute, hf.second, hf.nanos⟩
  | hour | hourOfHalf =>
    obtain ⟨⟨n, r'⟩, -, he⟩ := bind_ok.1 h
    cases he
    refine ⟨?_, hf.minute, hf.second, hf.nanos⟩
    rintro k ⟨⟩
    exact Nat.mod_lt _ (by omega)
  | half =>
    simp only [Directive.take] at h
    split at h
    · split at h
      · cases h
      split at h
      · cases h
        exact ⟨hf.hour, hf.minute, hf.second, hf.nanos⟩
      split at h
      · cases h
        exact ⟨hf.hour, hf.minute, hf.second, hf.nanos⟩
      · cases h
    · cases h
  | minute =>
    obtain ⟨⟨n, r'⟩, hn, he⟩ := bind_ok.1 h
    cases he
    refine ⟨hf.hour, ?_, hf.second, hf.nanos⟩
    rintro k ⟨⟩
    exact numberIn_le hn
  | second =>
    obtain ⟨⟨n, r'⟩, hn, he⟩ := bind_ok.1 h
    cases he
    refine ⟨hf.hour, hf.minute, ?_, hf.nanos⟩
    rintro k ⟨⟩
    exact numberIn_le hn
  | fraction =>
    simp only [Directive.take] at h
    split at h
    · obtain ⟨⟨n, r'⟩, hn, he⟩ := bind_ok.1 h
      cases he
      refine ⟨hf.hour, hf.minute, hf.second, ?_⟩
      rintro k ⟨⟩
      exact fraction_lt hn
    · cases h
      exact hf

theorem takeAll {ds : List Directive} (hf : f.Bounded) (h : Calendar.takeAll f cs ds = .ok (g, r)) : g.Bounded := by
  induction ds generalizing f cs with
  | nil =>
    cases h
    exact hf
  | cons d ds ih =>
    simp only [Calendar.takeAll] at h
    split at h
    · next htake => exact ih (hf.take htake) h
    · cases h

end Fields.Bounded

/-! ## Moments -/

/-- The second sixty becomes a fraction at the end of its minute. -/
theorem Fields.Bounded.time {f : Fields} {second nanos : Nat} (hf : f.Bounded) (h : f.time = .ok (second, nanos)) :
    second < 86400 ∧ (nanos < 1000000000 ∨ second % 60 = 59 ∧ nanos < 2000000000) := by
  unfold Fields.time at h
  split at h
  case h_2 => cases h
  next afternoon _ =>
  split at h
  case h_2 => cases h
  next hour hhour =>
  split at h
  case h_2 => cases h
  next minute hminute =>
  have hhour := hf.hour hour hhour
  have hminute := hf.minute minute hminute
  have hsecond : f.second.getD 0 ≤ 60 := by
    cases hs : f.second with
    | none => exact Nat.zero_le 60
    | some s => exact hf.second s hs
  have hnanos : f.nanos.getD 0 < 1000000000 := by
    cases hn : f.nanos with
    | none => exact Nat.zero_lt_succ _
    | some n => exact hf.nanos n hn
  have hhalf : (if afternoon = true then 12 else 0) ≤ 12 := by
    split <;> omega
  dsimp only at h
  split at h
  · cases h
  simp only [Except.ok.injEq] at h
  split at h
  · next hleap =>
    obtain ⟨rfl, rfl⟩ := Prod.mk.inj h
    omega
  · next hleap =>
    obtain ⟨rfl, rfl⟩ := Prod.mk.inj h
    omega

/-- An offset of whole minutes less than a day moves a second of a day to one at the same place of its minute. -/
theorem Moment.ofLocal_second {t : Moment} {offset : Int} (ht : t.second < 86400) (hoffset : offset % 60 = 0)
    (hleast : -86400 < offset) (hgreatest : offset < 86400) :
    (t.ofLocal offset).second < 86400 ∧ (t.ofLocal offset).second % 60 = t.second % 60 ∧ (t.ofLocal offset).nanos = t.nanos := by
  unfold ofLocal
  dsimp only
  split
  · refine ⟨?_, ?_, rfl⟩ <;> dsimp only <;> omega
  split
  · refine ⟨?_, ?_, rfl⟩ <;> dsimp only <;> omega
  · refine ⟨?_, ?_, rfl⟩ <;> dsimp only <;> omega

theorem Fields.Bounded.moment {f : Fields} {t : Moment} {offset : Int} (hf : f.Bounded) (hoffset : f.offset = some offset)
    (hminutes : offset % 60 = 0) (h : f.moment = .ok t) : t.Sound := by
  unfold Fields.moment at h
  rw [hoffset] at h
  dsimp only at h
  obtain ⟨u, hlocal, h⟩ := bind_ok.1 h
  obtain ⟨d, -, hlocal⟩ := bind_ok.1 hlocal
  obtain ⟨⟨s, n⟩, htime, hlocal⟩ := bind_ok.1 hlocal
  cases hlocal
  obtain ⟨hsecond, hnanos⟩ := hf.time htime
  split at h
  · cases h
  next hrange =>
  split at h
  · next hvalid =>
    cases h
    obtain ⟨hday, hplace, hsame⟩ := Moment.ofLocal_second (t := ⟨d, s, n⟩) hsecond hminutes (by omega) (by omega)
    refine ⟨hvalid, hday, ?_⟩
    rw [hplace, hsame]
    exact hnanos
  · cases h

/-- **What is read as a date is a moment there is.** -/
theorem Rfc3339.read_sound {cs : List Char} {t : Moment} (h : Rfc3339.read cs = .ok t) : t.Sound := by
  obtain ⟨⟨f, r₁⟩, hdate, h⟩ := bind_ok.1 h
  dsimp only at h
  split at h
  · cases h
  obtain ⟨r₂, -, h⟩ := bind_ok.1 h
  obtain ⟨⟨g, r₃⟩, htime, h⟩ := bind_ok.1 h
  dsimp only at h
  split at h
  · cases h
  obtain ⟨⟨offset, r₄⟩, hoffset, h⟩ := bind_ok.1 h
  dsimp only at h
  split at h
  · cases h
  have hstart : Fields.Bounded {} := ⟨nofun, nofun, nofun, nofun⟩
  have hbounded := (hstart.takeAll hdate).takeAll htime
  have hminutes : offset % 60 = 0 := by
    unfold relaxedOffset at hoffset
    split at hoffset
    · cases hoffset
      rfl
    · exact zoneOffset_minutes hoffset
  exact Fields.Bounded.moment (f := { g with offset := some offset })
    ⟨hbounded.hour, hbounded.minute, hbounded.second, hbounded.nanos⟩ rfl hminutes h

end Courier.Calendar
