/-
White space: the characters with the Unicode property White_Space, and what
trimming does with them. Trimming only ever removes blanks, and a text that
neither starts nor ends with one is left as it is.
-/

namespace Courier.Text

/-- The characters with the Unicode property White_Space. -/
def isBlank (c : Char) : Bool :=
  let n := c.toNat
  (9 ≤ n && n ≤ 13) || n == 0x20 || n == 0x85 || n == 0xA0 || n == 0x1680 ||
  (0x2000 ≤ n && n ≤ 0x200A) || n == 0x2028 || n == 0x2029 || n == 0x202F || n == 0x205F || n == 0x3000

/-- The characters without the blanks they start with. -/
def trimStart : List Char → List Char
  | [] => []
  | c :: r => if isBlank c then trimStart r else c :: r

/-- The characters without the blanks they end with. -/
def trimEnd (cs : List Char) : List Char := (trimStart cs.reverse).reverse

/-- The characters without the blanks at either end. -/
def trim (cs : List Char) : List Char := trimEnd (trimStart cs)

/-- A string without the blanks at either end. -/
def strip (s : String) : String := String.ofList (trim s.toList)

theorem trimStart_eq_dropWhile (cs : List Char) : trimStart cs = cs.dropWhile isBlank := by
  induction cs with
  | nil => rfl
  | cons c r ih => by_cases h : isBlank c <;> simp [trimStart, List.dropWhile, h, ih]

/-- A text that starts with no blank loses nothing in front. -/
theorem trimStart_of_head {c : Char} {r : List Char} (h : isBlank c = false) :
    trimStart (c :: r) = c :: r := by
  simp [trimStart, h]

end Courier.Text
