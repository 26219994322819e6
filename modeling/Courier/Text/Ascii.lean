/-
Letters without regard to case. Names are made of ASCII letters, and their other
characters stay as they are; a single letter may be of other alphabets too.
-/

namespace Courier.Text

/-- A text with the ASCII letters in lower case. -/
def lower (s : String) : String := String.ofList (s.toList.map Char.toLower)

/-- Whether two texts differ at most in the case of ASCII letters. -/
def sameLetters (s t : String) : Bool := lower s == lower t

/-- A letter in lower case: Latin, Greek and Cyrillic capitals. -/
def lowerLetter (c : Char) : Char :=
  let n := c.toNat
  if n < 0x80 then c.toLower
  else if (0xC0 ≤ n ∧ n ≤ 0xDE ∧ n ≠ 0xD7) ∨ (0x391 ≤ n ∧ n ≤ 0x3A9) ∨ (0x410 ≤ n ∧ n ≤ 0x42F) then Char.ofNat (n + 32)
  else if 0x400 ≤ n ∧ n ≤ 0x40F then Char.ofNat (n + 80)
  else c

end Courier.Text
