import Courier.Text.Utf8
/-
Parts of an address: the pieces between separators, and octets written as a
percent sign and two hexadecimal digits. A percent sign without two such digits
stands for itself.
-/

namespace Courier.Text

/-- The pieces of a text between separators; one more than there are separators. -/
def pieces (separator : Char) (s : String) : List String := (s.toList.splitOn separator).map String.ofList

/-- The value of a hexadecimal digit. -/
def hexValue? (b : UInt8) : Option UInt8 :=
  if 48 ≤ b ∧ b ≤ 57 then some (b - 48)
  else if 65 ≤ b ∧ b ≤ 70 then some (b - 55)
  else if 97 ≤ b ∧ b ≤ 102 then some (b - 87)
  else none

/-- Octets with every written octet replaced. -/
def percentDecode : List UInt8 → List UInt8
  | [] => []
  | [a] => [a]
  | [a, b] => [a, b]
  | a :: b :: c :: r =>
    if a = 37 then
      match hexValue? b, hexValue? c with
      | some x, some y => (16 * x + y) :: percentDecode r
      | _, _ => a :: percentDecode (b :: c :: r)
    else a :: percentDecode (b :: c :: r)

/-- A text with every written octet replaced, if that makes a text. -/
def percentDecode? (s : String) : Option String := decode? (percentDecode (encode s))

end Courier.Text
