import Courier.Text.Blank
/-
Shapes of texts: runs of characters of one kind, one after another, some of
which may be missing. A shape says in which ways it can cover the front of a
text; longer runs come first.
-/

namespace Courier.Text

inductive Shape
  /-- Between `least` and `least + more` characters of a kind; any number from
  `least` on if there is no `more`. -/
  | run (kind : Char → Bool) (least : Nat) (more : Option Nat)
  /-- One of some texts, the first that leads on. -/
  | oneOf (texts : List String)
  | optional (s : Shape)
  | seq (s t : Shape)

namespace Shape

/-- What follows a given text. -/
def afterText? : List Char → List Char → Option (List Char)
  | [], cs => some cs
  | t :: ts, c :: r => if c = t then afterText? ts r else none
  | _ :: _, [] => none

/-- What can be left after up to `most` characters of a kind, the shortest rest first. -/
def restsOfRun (kind : Char → Bool) : Option Nat → List Char → List (List Char)
  | _, [] => [[]]
  | some 0, cs => [cs]
  | some (n + 1), c :: r => if kind c then restsOfRun kind (some n) r ++ [c :: r] else [c :: r]
  | none, c :: r => if kind c then restsOfRun kind none r ++ [c :: r] else [c :: r]

/-- What is left after exactly `n` characters of a kind. -/
def afterExactly? (kind : Char → Bool) : Nat → List Char → Option (List Char)
  | 0, cs => some cs
  | n + 1, c :: r => if kind c then afterExactly? kind n r else none
  | _ + 1, [] => none

/-- What can be left of a text after a shape, the preferred way first. -/
def rests : Shape → List Char → List (List Char)
  | .run kind least more, cs =>
    match afterExactly? kind least cs with
    | some r => restsOfRun kind more r
    | none => []
  | .oneOf texts, cs => texts.filterMap fun t => afterText? t.toList cs
  | .optional s, cs => s.rests cs ++ [cs]
  | .seq s t, cs => (s.rests cs).flatMap t.rests

/-- Whether a shape covers a whole text. -/
def covers (s : Shape) (cs : List Char) : Bool := (s.rests cs).any List.isEmpty

/-- The part of a text that the second of two shapes covers after the first. -/
def second? (s t : Shape) (cs : List Char) : Option (List Char) := (s.rests cs).find? t.covers

/-- Shapes one after another. -/
def sequence : List Shape → Shape
  | [] => .oneOf [""]
  | [s] => s
  | s :: t :: r => .seq s (sequence (t :: r))

end Shape
end Courier.Text
