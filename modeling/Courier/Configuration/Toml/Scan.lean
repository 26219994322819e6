import Courier.Configuration.Tree
/-
Reading a text piece by piece, the first reading that fits being taken. Where
none fits, the place, what was expected there and why are kept.
-/

namespace Courier.Configuration.Toml

/-- Where and why a reading does not fit. -/
structure Mishap where
  /-- What follows the place. -/
  rest : List Char
  /-- The innermost thing that was being read. -/
  label : Option String := none
  wanted : List String := []
  cause : Option String := none
  /-- Whether other readings are given up too. -/
  final : Bool := false

abbrev Scan := StateT (List Char) (Except Mishap)

namespace Scan

variable {α β : Type}

/-- Nothing fits here. -/
def miss : Scan α := fun cs => .error { rest := cs }

/-- Makes a mishap one that no other reading mends. -/
def must (p : Scan α) : Scan α := fun cs => (p cs).mapError fun m => { m with final := true }

/-- Names what is being read. -/
def named (label : String) (p : Scan α) : Scan α := fun cs =>
  (p cs).mapError fun m => { m with label := some (m.label.getD label) }

/-- Names what could stand here. -/
def wanting (wanted : List String) (p : Scan α) : Scan α := fun cs =>
  (p cs).mapError fun m => { m with wanted := m.wanted ++ wanted }

/-- The second reading where the first does not fit. -/
def orElse (p q : Scan α) : Scan α := fun cs =>
  match p cs with
  | .error m => if m.final then .error m else q cs
  | r => r

def maybe (p : Scan α) : Scan (Option α) := fun cs =>
  match p cs with
  | .ok (a, r) => .ok (some a, r)
  | .error m => if m.final then .error m else .ok (none, cs)

/-- Reads without going on. -/
def peek (p : Scan α) : Scan α := fun cs =>
  match p cs with
  | .ok (a, _) => .ok (a, cs)
  | .error m => .error m

/-- Takes what was read further, or fails at its start. -/
def check (p : Scan α) (f : α → Except String β) : Scan β := fun cs =>
  match p cs with
  | .ok (a, r) =>
    match f a with
    | .ok b => .ok (b, r)
    | .error e => .error { rest := cs, cause := some e }
  | .error m => .error m

/-- What was read, together with its text. -/
def written (p : Scan α) : Scan (List Char × α) := fun cs =>
  match p cs with
  | .ok (a, r) => .ok ((cs.take (cs.length - r.length), a), r)
  | .error m => .error m

def one (fits : Char → Bool) : Scan Char := fun cs =>
  match cs with
  | c :: r => if fits c then .ok (c, r) else .error { rest := cs }
  | [] => .error { rest := [] }

def char (c : Char) : Scan Char := one (· == c)

def exactly (s : String) : Scan Unit := fun cs =>
  if s.toList.isPrefixOf cs then .ok ((), cs.drop s.length) else .error { rest := cs }

def run (fits : Char → Bool) : Scan (List Char) := fun cs => .ok (cs.takeWhile fits, cs.dropWhile fits)

def run1 (fits : Char → Bool) : Scan (List Char) := fun cs =>
  match cs.takeWhile fits with
  | [] => .error { rest := cs }
  | found => .ok (found, cs.dropWhile fits)

/-- Some number of characters of a kind, no more of them being looked at. -/
def times (n : Nat) (fits : Char → Bool) : Scan (List Char) := fun cs =>
  if (cs.take n).all fits ∧ n ≤ cs.length then .ok (cs.take n, cs.drop n) else .error { rest := cs }

def ending : Scan Unit := fun cs =>
  match cs with
  | [] => .ok ((), [])
  | _ => .error { rest := cs }

/-- Readings one after another, at most `fuel` of them. -/
def manyUpTo (p : Scan α) (fuel : Nat) : Scan (List α) := fun cs =>
  match fuel with
  | 0 => .ok ([], cs)
  | fuel + 1 =>
    match maybe p cs with
    | .ok (some a, r) => (manyUpTo p fuel r).map fun (as, r) => (a :: as, r)
    | .ok (none, r) => .ok ([], r)
    | .error m => .error m

/-- As many readings as fit; each takes something of the text. -/
def many (p : Scan α) : Scan (List α) := fun cs => manyUpTo p (cs.length + 1) cs

def many1 (p : Scan α) : Scan (List α) := do
  let a ← p
  let r ← many p
  return a :: r

/-- Readings with separators between them, one at least. A separator with nothing after it is left. -/
def separated1 (p : Scan α) (separator : Scan β) : Scan (List α) := do
  let a ← p
  let r ← many (do let _ ← separator; p)
  return a :: r

/-- Readings with separators between them. -/
def separated (p : Scan α) (separator : Scan β) : Scan (List α) :=
  orElse (separated1 p separator) (pure [])

end Scan

/-! ## Places and wording -/

namespace Mishap

/-- The place of a mishap: the number of its line, counted from nought, the
column and the line's text. The end of a text is one column after its last
character; a column before a character of several octets is counted in octets. -/
def place (whole : List Char) (m : Mishap) : Nat × Nat × List Char :=
  let before := whole.take (whole.length - m.rest.length)
  let start (cs : List Char) := (cs.reverse.takeWhile (· ≠ '\n')).reverse
  let octets (cs : List Char) := cs.foldl (fun n c => n + c.utf8Size) 0
  let (line, column) := match m.rest with
    | [] => (before.dropLast.count '\n', (start before.dropLast).length + 1)
    | c :: _ => (before.count '\n', if c.utf8Size = 1 then (start before).length else octets (start before))
  let text := ((String.ofList whole).splitOn "\n").getD line ""
  (line, column, text.toList)

/-- What happened, without the place. -/
def reason (m : Mishap) : String :=
  let parts := (m.label.map fun l => "invalid " ++ l).toList
    ++ (if m.wanted.isEmpty then [] else ["expected " ++ String.intercalate ", " m.wanted])
    ++ m.cause.toList
  String.intercalate "\n" parts

/-- The whole report: the place, the line with the place marked, and the reason. -/
def report (whole : List Char) (m : Mishap) : String :=
  let (line, column, text) := m.place whole
  let number := toString (line + 1)
  let blanks (n : Nat) := String.ofList (List.replicate n ' ')
  let width := match m.rest with
    | [] => 0
    | c :: _ => c.utf8Size
  let length := text.foldl (fun n c => n + c.utf8Size) 0
  let marks := String.ofList (List.replicate (max 1 (min width (length - column))) '^')
  "TOML parse error at line " ++ number ++ ", column " ++ toString (column + 1) ++ "\n"
    ++ blanks (number.length + 1) ++ "|\n"
    ++ number ++ " | " ++ String.ofList text ++ "\n"
    ++ blanks (number.length + 1) ++ "|" ++ blanks (column + 1) ++ marks ++ "\n"
    ++ m.reason ++ "\n"

end Mishap
end Courier.Configuration.Toml
