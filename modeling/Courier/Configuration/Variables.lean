import Courier.Configuration.Tree
import Courier.Number.Numeral
import Courier.Text.Blank
/-
Variables of the environment as a source of settings, and files of variables,
which stand in for variables that are not set.
-/

namespace Courier.Configuration

/-- Variables with their values. -/
abbrev Variables := List (String × String)

namespace Variables

/-- What the names of the variables that hold settings start with. -/
def start : String := "relay__"

/-- The name of the environment as a source of settings. -/
def origin : String := "the environment"

/-- Underscores in pairs stand for the points of a path. -/
def path : List Char → List Char
  | '_' :: '_' :: r => '.' :: path r
  | c :: r => c :: path r
  | [] => []

/-- A value as what it looks like: a truth value, a number or a text. -/
def valueOf (s : String) : Tree :=
  let word := Text.lower s
  if word = "true" then .flag true (some origin)
  else if word = "false" then .flag false (some origin)
  else match Number.intWithin? (-2 ^ 63) (2 ^ 63 - 1) s.toList with
    | some n => .whole n (some origin)
    | none =>
      match Number.real? s.toList with
      | some x => .real x (some origin)
      | none => .text s (some origin)

/-- The settings among some variables, by their paths. -/
def settings (vs : Variables) : List (String × Tree) :=
  vs.filterMap fun (name, value) =>
    let name := (Text.lower name).toList
    if start.toList.isPrefixOf name then
      some (String.ofList (path (name.drop start.length)), valueOf value)
    else none

/-! ## Files of variables

A line sets one variable. Its value may be quoted, may take up several lines,
and may name other variables after a dollar sign. -/

/-- Where a character stands in a line: outside quotes, after blanks there,
after a backslash, or between quotes of a kind. -/
inductive Spot
  | plain | blank | escaped
  | quoted (q : Char) | quotedEscape (q : Char)
  deriving DecidableEq

def Spot.next (s : Spot) (c : Char) : Spot :=
  match s with
  | escaped => plain
  | quotedEscape q => quoted q
  | quoted q => if c = '\\' then quotedEscape q else if c = q then plain else quoted q
  | plain =>
    if Text.isBlank c ∧ c ≠ '\n' ∧ c ≠ '\r' then blank
    else if c = '\\' then escaped
    else if c = '"' ∨ c = '\'' then quoted c
    else plain
  | blank =>
    if c = '\\' then escaped
    else if c = '"' ∨ c = '\'' then quoted c
    else plain

/-- The characters of one line up to its comment, and whether there is one. -/
def beforeComment (s : Spot) : List Char → List Char × Spot × Bool
  | [] => ([], s, false)
  | c :: r =>
    if s = .blank ∧ c = '#' then ([], s, true)
    else
      let (cs, s, found) := beforeComment (s.next c) r
      (c :: cs, s, found)

/-- A line without the marks of its end. -/
def withoutEnd (cs : List Char) : List Char :=
  match cs.reverse with
  | '\n' :: '\r' :: r | '\n' :: r => r.reverse
  | _ => cs

/-- The lines of a file, quotes holding several together; `none` stands for one that has no end. -/
def linesFrom (fuel : Nat) (s : Spot) (before : List Char) (cs : List Char) : List (Option (List Char)) :=
  match fuel with
  | 0 => []
  | fuel + 1 =>
    match cs with
    | [] => if s = .plain then [] else [none]
    | cs =>
      let line := cs.takeWhile (· ≠ '\n') ++ (cs.dropWhile (· ≠ '\n')).take 1
      let rest := (cs.dropWhile (· ≠ '\n')).drop 1
      if (Text.trimStart (before ++ line)).head? = some '#' then some [] :: linesFrom fuel .plain [] rest
      else
        match beforeComment s line with
        | (kept, _, true) => some (before ++ kept) :: linesFrom fuel .plain [] rest
        | (_, .plain, false) => some (withoutEnd (before ++ line)) :: linesFrom fuel .plain [] rest
        | (_, s, false) => linesFrom fuel s (before ++ line) rest

/-- What is being read of a value: text, the rest of it between blanks, or the name of another variable. -/
inductive Mode
  | text | ended
  | escaped
  | quoted
  | name (so : List Char) | bracedName (so : List Char)

/-- The value of a variable that another one names. -/
def named (known : Variables) (name : List Char) : List Char :=
  ((known.lookup (String.ofList name)).getD "").toList

/-- A letter or digit, for names of variables. -/
def isNameChar (c : Char) : Bool := c.isAlphanum || 0xAA ≤ c.toNat && !Text.isBlank c

/-- The value that some characters stand for; `weak` tells that double quotes are open. -/
def valueFrom (known : Variables) (weak : Bool) (mode : Mode) (out : List Char) : List Char → Option (List Char)
  | [] =>
    match mode with
    | .bracedName _ | .quoted => none
    | .name so => if weak then none else some (out ++ named known so.reverse)
    | _ => if weak then none else some out
  | c :: r =>
    match mode with
    | .ended =>
      if c = ' ' ∨ c = '\t' then valueFrom known weak .ended out r
      else if c = '#' then (if weak then none else some out)
      else none
    | .escaped =>
      if ['\\', '\'', '"', '$', ' '].contains c then valueFrom known weak .text (out ++ [c]) r
      else if c = 'n' then valueFrom known weak .text (out ++ ['\n']) r
      else none
    | .quoted => if c = '\'' then valueFrom known weak .text out r else valueFrom known weak .quoted (out ++ [c]) r
    | .name so =>
      if isNameChar c then valueFrom known weak (.name (c :: so)) out r
      else if c = '\x7b' ∧ so = [] then valueFrom known weak (.bracedName []) out r
      else
        let out := out ++ named known so.reverse
        if c = '$' then valueFrom known weak (.name []) out r
        else valueFrom known weak .text (out ++ [c]) r
    | .bracedName so =>
      if c = '\x7d' then valueFrom known weak .text (out ++ named known so.reverse) r
      else valueFrom known weak (.bracedName (c :: so)) out r
    | .text =>
      if c = '$' then valueFrom known weak (.name []) out r
      else if weak then
        if c = '"' then valueFrom known false .text out r
        else if c = '\\' then valueFrom known weak .escaped out r
        else valueFrom known weak .text (out ++ [c]) r
      else if c = '\'' then valueFrom known weak .quoted out r
      else if c = '"' then valueFrom known true .text out r
      else if c = '\\' then valueFrom known weak .escaped out r
      else if c = ' ' ∨ c = '\t' then valueFrom known weak .ended out r
      else valueFrom known weak .text (out ++ [c]) r

/-- The name at the start of some characters. -/
def nameOf? : List Char → Option (List Char × List Char)
  | [] => none
  | c :: r =>
    let more (c : Char) : Bool := c.isAlphanum || c == '_' || c == '.'
    if c.isAlpha ∨ c = '_' then some ((c :: r).takeWhile more, (c :: r).dropWhile more) else none

/-- What follows the equals sign. -/
def afterEquals? (cs : List Char) : Option (List Char) :=
  match Text.trimStart cs with
  | '=' :: r => some r
  | _ => none

/-- The name and the characters of the value that a line sets; `export` may stand before the name. -/
def assignment? (line : List Char) : Option (List Char × List Char) := do
  let (name, r) ← nameOf? line
  match afterEquals? r with
  | some r => some (name, r)
  | none =>
    if name = "export".toList then
      let (name, r) ← nameOf? (Text.trimStart r)
      some (name, ← afterEquals? r)
    else none

/-- Variables with those added that a file sets and that were not set. What the
file said before counts as set for names in its values; the first malformed line
ends the reading. -/
def addLines (vs said : Variables) : List (Option (List Char)) → Variables
  | [] => vs
  | none :: _ => vs
  | some line :: rest =>
    match Text.trim line with
    | [] => addLines vs said rest
    | '#' :: _ => addLines vs said rest
    | cs =>
      match assignment? cs with
      | none => vs
      | some (name, value) =>
        let value : Option (List Char) := match Text.trimStart value with
          | [] => some []
          | '#' :: _ => some []
          | value => valueFrom (vs ++ said) false .text [] value
        match value with
        | none => vs
        | some value =>
          let entry := (String.ofList name, String.ofList value)
          let vs := if (vs.lookup entry.1).isSome then vs else vs ++ [entry]
          addLines vs (entry :: said) rest

/-- Variables with those of a file added. -/
def addFile (vs : Variables) (file : String) : Variables :=
  let cs := match file.toList with
    | '\ufeff' :: r => r
    | cs => cs
  addLines vs [] (linesFrom (cs.length + 1) .plain [] cs)

end Variables
end Courier.Configuration
