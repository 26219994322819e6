import Courier.Text.Utf8
/-
A text is read back from its octets. The octets of a character are looked at together,
so this holds of one character at a time, whatever comes after it. Octets below 128 are
characters of their own, and come back from the text that they form.
-/

namespace Courier.Text

/-! ## One character -/

section

variable {a b c d : UInt8} {r : List UInt8}

theorem leading?_one (ha : a.toNat < 0x80) : leading? (a :: r) = some (Char.ofNat a.toNat, 1) := by
  simp only [leading?, UInt8.lt_iff_toNat_lt, UInt8.reduceToNat]
  rw [if_pos ha]

theorem leading?_two (ha : 0xC2 ≤ a.toNat ∧ a.toNat < 0xE0) (hb : continues b = true) :
    leading? (a :: b :: r) = some (Char.ofNat (a.toNat % 32 * 64 + low6 b), 2) := by
  simp only [leading?, hb, UInt8.lt_iff_toNat_lt, UInt8.le_iff_toNat_le, UInt8.reduceToNat, Bool.not_true,
    Bool.false_eq_true, if_false, Bool.and_eq_true, decide_eq_true_eq]
  rw [if_neg (by omega), if_pos ha]

/-- Of three octets, the second one says more than six bits after two of the first ones. -/
theorem leading?_three (ha : 0xE0 ≤ a.toNat ∧ a.toNat < 0xF0) (hleast : a.toNat = 0xE0 → 0xA0 ≤ b.toNat)
    (hgreatest : a.toNat = 0xED → b.toNat < 0xA0) (hb : continues b = true) (hc : continues c = true) :
    leading? (a :: b :: c :: r) = some (Char.ofNat ((a.toNat % 16 * 64 + low6 b) * 64 + low6 c), 3) := by
  simp only [leading?, hb, hc, UInt8.lt_iff_toNat_lt, UInt8.le_iff_toNat_le, UInt8.reduceToNat, Bool.not_true,
    Bool.false_eq_true, if_false, Bool.and_eq_true, Bool.or_eq_true, decide_eq_true_eq, beq_iff_eq, bne_iff_ne, ne_eq,
    ← UInt8.toNat_inj]
  rw [if_neg (by omega), if_neg (by omega), if_pos (by omega)]

theorem leading?_four (ha : 0xF0 ≤ a.toNat ∧ a.toNat < 0xF5) (hleast : a.toNat = 0xF0 → 0x90 ≤ b.toNat)
    (hgreatest : a.toNat = 0xF4 → b.toNat < 0x90) (hb : continues b = true) (hc : continues c = true)
    (hd : continues d = true) :
    leading? (a :: b :: c :: d :: r) =
      some (Char.ofNat (((a.toNat % 8 * 64 + low6 b) * 64 + low6 c) * 64 + low6 d), 4) := by
  simp only [leading?, hb, hc, hd, UInt8.lt_iff_toNat_lt, UInt8.le_iff_toNat_le, UInt8.reduceToNat, Bool.not_true,
    Bool.false_eq_true, if_false, Bool.and_eq_true, Bool.or_eq_true, decide_eq_true_eq, beq_iff_eq, bne_iff_ne, ne_eq,
    ← UInt8.toNat_inj]
  rw [if_neg (by omega), if_neg (by omega), if_neg (by omega), if_pos (by omega)]

end

theorem toNat_ofNat {n : Nat} (h : n < 0x100) : (UInt8.ofNat n).toNat = n := by
  rw [UInt8.toNat_ofNat', Nat.mod_eq_of_lt h]

/-- Six bits as an octet that continues a character. -/
theorem continues_ofNat {n : Nat} (h : n < 0x40) :
    continues (UInt8.ofNat (n + 0x80)) = true ∧ low6 (UInt8.ofNat (n + 0x80)) = n := by
  revert n
  decide

/-- The octets of a character are read as the character, with nothing of what comes after them. -/
theorem leading?_encodeChar (c : Char) (r : List UInt8) :
    leading? (String.utf8EncodeChar c ++ r) = some (c, (String.utf8EncodeChar c).length) := by
  have hvalid : c.val.toNat < 0xD800 ∨ 0xDFFF < c.val.toNat ∧ c.val.toNat < 0x110000 := c.valid
  have hc : Char.ofNat c.val.toNat = c := Char.ofNat_toNat c
  unfold String.utf8EncodeChar
  dsimp only
  generalize c.val.toNat = v at hvalid hc
  subst hc
  have hlast := continues_ofNat (n := v % 64) (by omega)
  have hthird := continues_ofNat (n := v / 64 % 64) (by omega)
  have hsecond := continues_ofNat (n := v / 4096 % 64) (by omega)
  split
  · have ha := toNat_ofNat (n := v) (by omega)
    have hone := leading?_one (r := r) (a := UInt8.ofNat v) (by omega)
    rw [ha] at hone
    exact hone
  split
  · have ha := toNat_ofNat (n := v / 64 % 32 + 192) (by omega)
    have htwo := leading?_two (r := r) (a := UInt8.ofNat (v / 64 % 32 + 192)) (by omega) hlast.1
    rw [ha, hlast.2] at htwo
    refine htwo.trans ?_
    rw [show (v / 64 % 32 + 192) % 32 * 64 + v % 64 = v by omega]
    rfl
  split
  · have ha := toNat_ofNat (n := v / 4096 % 16 + 224) (by omega)
    have hb := toNat_ofNat (n := v / 64 % 64 + 128) (by omega)
    have hthree := leading?_three (r := r) (a := UInt8.ofNat (v / 4096 % 16 + 224)) (b := UInt8.ofNat (v / 64 % 64 + 128))
      (by omega) (by omega) (by omega) hthird.1 hlast.1
    rw [ha, hthird.2, hlast.2] at hthree
    refine hthree.trans ?_
    rw [show ((v / 4096 % 16 + 224) % 16 * 64 + v / 64 % 64) * 64 + v % 64 = v by omega]
    rfl
  · have ha := toNat_ofNat (n := v / 262144 % 8 + 240) (by omega)
    have hb := toNat_ofNat (n := v / 4096 % 64 + 128) (by omega)
    have hfour := leading?_four (r := r) (a := UInt8.ofNat (v / 262144 % 8 + 240)) (b := UInt8.ofNat (v / 4096 % 64 + 128))
      (by omega) (by omega) (by omega) hsecond.1 hthird.1 hlast.1
    rw [ha, hsecond.2, hthird.2, hlast.2] at hfour
    refine hfour.trans ?_
    rw [show (((v / 262144 % 8 + 240) % 8 * 64 + v / 4096 % 64) * 64 + v / 64 % 64) * 64 + v % 64 = v by omega]
    rfl

/-! ## Texts -/

theorem decodeFrom_skipped (acc : List (Option Char)) (xs r : List UInt8) :
    decodeFrom xs.length acc (xs ++ r) = decodeFrom 0 acc r := by
  induction xs with
  | nil => rfl
  | cons x xs ih => simpa [decodeFrom] using ih

theorem decodeFrom_encodeChar (acc : List (Option Char)) (c : Char) (r : List UInt8) :
    decodeFrom 0 acc (String.utf8EncodeChar c ++ r) = decodeFrom 0 (some c :: acc) r := by
  have hleading := leading?_encodeChar c r
  cases hbytes : String.utf8EncodeChar c with
  | nil => exact absurd hbytes (List.ne_nil_of_length_pos (by rw [String.length_utf8EncodeChar]; exact c.utf8Size_pos))
  | cons b bs =>
    rw [hbytes, List.cons_append] at hleading
    rw [List.cons_append, decodeFrom, if_neg (by simp), hleading]
    exact decodeFrom_skipped _ bs r

theorem decodeFrom_flatMap (acc : List (Option Char)) (cs : List Char) :
    decodeFrom 0 acc (cs.flatMap String.utf8EncodeChar) = acc.reverse ++ cs.map some := by
  induction cs generalizing acc with
  | nil => simp [decodeFrom]
  | cons c cs ih => simp [decodeFrom_encodeChar, ih]

theorem toList_loop (bs : ByteArray) (i : Nat) (r : List UInt8) :
    ByteArray.toList.loop bs i r = r.reverse ++ bs.data.toList.drop i := by
  fun_induction ByteArray.toList.loop bs i r with
  | case1 i r h ih =>
    have hi : i < bs.data.toList.length := by simpa using h
    rw [ih, List.drop_eq_getElem_cons hi]
    simp [ByteArray.get!, h]
  | case2 i r h =>
    have hi : bs.data.toList.length ≤ i := by simpa using Nat.le_of_not_lt h
    rw [List.drop_eq_nil_of_le hi, List.append_nil]

/-- The octets of a text are those of its characters. -/
theorem encode_ofList (cs : List Char) : encode (String.ofList cs) = cs.flatMap String.utf8EncodeChar := by
  unfold encode String.toUTF8 ByteArray.toList
  rw [toList_loop, String.toByteArray_ofList, List.utf8Encode, List.toList_data_toByteArray]
  rfl

/-- **A text is read back from its octets.** -/
theorem decode?_encode (s : String) : decode? (encode s) = some s := by
  have hs := encode_ofList s.toList
  rw [String.ofList_toList] at hs
  have hall : (s.toList.map some).mapM id = some s.toList := by
    induction s.toList with
    | nil => rfl
    | cons c cs ih => simp [ih]
  rw [hs, decode?, decode, decodeFrom_flatMap, List.reverse_nil, List.nil_append, hall, Option.map_some,
    String.ofList_toList]

theorem encode_inj {s t : String} (h : encode s = encode t) : s = t := by
  have hs := decode?_encode s
  rw [h, decode?_encode] at hs
  exact (Option.some.inj hs).symm

/-- Octets below 128 are the octets of a text. -/
theorem exists_encode {bs : List UInt8} (h : ∀ b ∈ bs, b < 0x80) : ∃ s, encode s = bs := by
  refine ⟨String.ofList (bs.map fun b => Char.ofNat b.toNat), ?_⟩
  rw [encode_ofList, List.flatMap_map]
  induction bs with
  | nil => rfl
  | cons b bs ih =>
    have hb : b.toNat < 0x80 := h b List.mem_cons_self
    have hvalue : (Char.ofNat b.toNat).val.toNat = b.toNat := by
      rw [Char.ofNat, dif_pos (.inl (by omega))]
      rfl
    rw [List.flatMap_cons, ih fun k hk => h k (List.mem_cons_of_mem _ hk), String.utf8EncodeChar]
    simp only [hvalue]
    rw [if_pos (by omega), UInt8.ofNat_toNat]
    rfl

end Courier.Text
