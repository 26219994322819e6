/-
A text as it was read from octets: a list of characters with a mark for each
octet that belongs to no character. Places in it are counted in octets, and
shown as a line and a column.
-/

namespace Courier.Json

/-- Characters, and `none` for an octet that is part of no character. -/
abbrev Source := List (Option Char)

namespace Source

def ofString (s : String) : Source := s.toList.map some

/-- How many octets one position of a source takes. -/
def width : Option Char → Nat
  | some c => c.utf8Size
  | none => 1

/-- How many octets a source takes. -/
def octets (s : Source) : Nat := s.foldl (fun n x => n + width x) 0

/-- The line and the column `n` octets into a source, lines counted from one. -/
def place (line column : Nat) : Nat → Source → Nat × Nat
  | _, [] => (line, column)
  | n, x :: r =>
    if n = 0 then (line, column)
    else if n < width x then (line, column + n)
    else if x = some '\n' then place (line + 1) 0 (n - width x) r
    else place line (column + width x) (n - width x) r

end Source
end Courier.Json
