import Courier.Configuration.Toml.Item
import Courier.Configuration.Toml.Numeral
/-
Values, and documents: lines with a key and a value, and headers that open a
table or one more table of a list. Lists and tables may be nested 79 deep.
-/

namespace Courier.Configuration.Toml

open Scan

/-! ## Keys -/

def isBareKey (c : Char) : Bool := c.isAlphanum || c == '-' || c == '_'

def simpleKey : Scan String := fun cs =>
  match cs with
  | '"' :: _ => (basicText cs).map fun (t, r) => (String.ofList t, r)
  | '\'' :: _ => (literalText cs).map fun (t, r) => (String.ofList t, r)
  | [] => .error { rest := [] }
  | _ => (run1 isBareKey cs).map fun (t, r) => (String.ofList t, r)

def keyPart : Scan Key := do
  let _ ← spaces
  let (text, name) ← written simpleKey
  let _ ← spaces
  return ⟨name, String.ofList text⟩

/-- How deep lists, tables and keys may not go. -/
def depthLimit : Nat := 80

/-- Names with points between them. -/
def key : Scan (List Key) :=
  check (named "key" (separated1 keyPart (char '.'))) fun ks =>
    if ks.length < depthLimit then .ok ks else .error "recursion limit exceeded"

def equals : Scan Unit := wanting (quotedNames ['.', '=']) do
  let _ ← char '='

/-! ## Values -/

def comment : Scan Unit := do
  let _ ← char '#'
  let _ ← run isPrintable

/-- Blanks, comments and line ends. -/
def gap : Scan Unit := do
  let _ ← spaces
  let _ ← many do
    orElse (do comment; newline) newline
    spaces

/-- A word, or what is taken for an unquoted text. -/
def word (p : Scan Tree) : Scan Tree :=
  wanting (quotedNames ['"', '\'']) (named "string" p)

def literally (s : String) (t : Tree) : Scan Tree := do
  must (exactly s)
  return t

/-- Something nested one level deeper. -/
def deeper {α : Type} (depth : Nat) (p : Nat → Scan α) : Scan α := fun cs =>
  match depth with
  | 0 => .error { rest := cs, cause := some "recursion limit exceeded", final := true }
  | d + 1 => p d cs

def listOf (origin : Origin) (value : Scan Given) : Scan Tree := do
  let _ ← char '['
  let items ← must (separated (do gap; let v ← value; gap; return v) (char ','))
  if items.isEmpty then
    must gap
  else
    let _ ← maybe (char ',')
    must gap
  let _ ← wanting (quotedNames [']']) (named "array" (must (char ']')))
  return .list (items.map (·.tree)) origin

def bracedLine (value : Scan Given) : Scan (List Key × Given) := do
  let path ← key
  must do
    equals
    let _ ← spaces
    let v ← value
    let _ ← spaces
    return (path, v)

def bracedLines (value : Scan Given) : Scan (List (List Key × Given)) := do
  let lines ← separated (bracedLine value) (char ',')
  let _ ← spaces
  return lines

/-- A table with the value of a line between braces. -/
def addLine (t : Item) (line : List Key × Given) : Except Clash Item :=
  match line.1.getLast? with
  | some k => t.define .braced [] line.1.dropLast k line.2
  | none => .ok t

/-- A table between braces. -/
def bracedTable (origin : Origin) (value : Scan Given) : Scan Tree := do
  let _ ← char '\x7b'
  let t : Item ← must <| check (bracedLines value) fun lines =>
    (lines.foldlM addLine Item.emptyTable).mapError Clash.message
  let _ ← wanting (quotedNames ['\x7d']) (named "inline table" (must (char '\x7d')))
  return t.toTree origin

/-- A value of any kind, by its first character. -/
def valueWith (origin : Origin) (list braced : Scan Tree) : Scan Given := fun cs =>
  let give (kind : String) (p : Scan Tree) : Except Mishap (Given × List Char) :=
    (p cs).map fun (t, r) => (⟨kind, t⟩, r)
  let whole : Scan Given := do return ⟨"integer", .whole (← integer) origin⟩
  let double : Scan Given := do return ⟨"float", .real (← real) origin⟩
  match cs with
  | [] => .error { rest := [] }
  | c :: _ =>
    if c = '"' ∨ c = '\'' then give "string" (do return .text (← quoted) origin)
    else if c = '[' then give "array" list
    else if c = '\x7b' then give "inline table" braced
    else if c = '+' ∨ c = '-' ∨ Number.isDigit c then
      orElse (do return ⟨"datetime", .text (← moment) origin⟩) (orElse double whole) cs
    else if c = '_' then wanting ["leading digit"] whole cs
    else if c = '.' then wanting ["leading digit"] double cs
    else if c = 't' then give "boolean" (word (literally "true" (.flag true origin)))
    else if c = 'f' then give "boolean" (word (literally "false" (.flag false origin)))
    else if c = 'i' then give "float" (word (do return .real (← infinity) origin))
    else if c = 'n' then give "float" (word (do return .real (← noNumber) origin))
    else give "string" (word miss)

/-- A value within which lists and tables may be nested so deep. -/
def value (origin : Origin) : Nat → Scan Given
  | 0 => valueWith origin (deeper 0 fun _ => miss) (deeper 0 fun _ => miss)
  | d + 1 => valueWith origin (listOf origin (value origin d)) (bracedTable origin (value origin d))

/-! ## Lines -/

/-- What may stand after a value or a header: blanks, a comment, and the end of the line. -/
def lineEnd : Scan Unit :=
  wanting ["newline", "`#`"] do
    let _ ← spaces
    let _ ← maybe comment
    orElse newline ending

/-- A document read so far: what has been closed, and the table that is open, with its name. -/
structure Draft where
  closed : Item
  current : Item
  name : List Key
  /-- Whether the open table is one of several under its name. -/
  several : Bool

def Draft.empty : Draft := ⟨.emptyTable, .emptyTable, [], false⟩

/-- The open table put in its place. -/
def Draft.close (d : Draft) : Except Clash Item :=
  match d.name.getLast? with
  | none => .ok d.current
  | some k =>
    d.closed.within .header d.name.dropLast (fun t =>
      if d.several then
        match t.members.lookup k.name with
        | some (.tables each) => .ok (t.put k.name (.tables (d.current :: each)))
        | none => .ok (t.put k.name (.tables [d.current]))
        | some _ => .error (.duplicateIn k.written d.name.dropLast)
      else .ok (t.put k.name d.current)) d.name.dropLast

/-- The table that a header opens: a new one, or one that headers passed through. -/
def Draft.start (closed : Item) (name : List Key) (several : Bool) : Except Clash Draft :=
  match name.getLast? with
  | none => .ok ⟨closed, .emptyTable, name, several⟩
  | some k => do
    let clash : Clash := .duplicateIn k.written name.dropLast
    let _ ← closed.within .header name.dropLast (fun t =>
      match t.members.lookup k.name, several with
      | none, _ => .ok t
      | some (.tables _), true => .ok t
      | some (.table true false _), false => .ok t
      | _, _ => .error clash) name.dropLast
    let found := (name.foldl (fun t k => t.bind fun (t : Item) =>
      match t with
      | .tables (last :: _) => last.members.lookup k.name
      | t => t.members.lookup k.name) (some closed))
    let current := match found, several with
      | some (.table _ _ ms), false => .table false false ms
      | _, _ => .emptyTable
    return ⟨closed, current, name, several⟩

/-- Opens another table. -/
def Draft.turn (d : Draft) (name : List Key) (several : Bool) : Except Clash Draft := do
  Draft.start (← d.close) name several

/-- A key and a value on a line of their own. -/
def keyLine (origin : Origin) : Scan (List Key × Given) := do
  let path ← key
  must do
    equals
    let _ ← spaces
    let v ← value origin (depthLimit - 1)
    lineEnd
    return (path, v)

/-- The open table with a value under a key. -/
def Draft.add (d : Draft) (line : List Key × Given) : Except Clash Draft :=
  match line.1.getLast? with
  | some k => (d.current.define .dotted d.name line.1.dropLast k line.2).map fun t => { d with current := t }
  | none => .ok d

def header (d : Draft) : Scan Draft := fun cs =>
  let ofName (opening closing : String) (several : Bool) : Scan Draft :=
    check (do
      exactly opening
      let name ← must key
      wanting ["`.`", "`" ++ closing ++ "`"] (must (exactly closing))
      must lineEnd
      return name) fun name => (d.turn name several).mapError Clash.message
  named "table header" (match cs with
    | '[' :: '[' :: _ => ofName "[[" "]]" true
    | [_] => miss
    | _ => ofName "[" "]" false) cs

def line (origin : Origin) (d : Draft) : Scan Draft := fun cs =>
  match cs with
  | [] => .error { rest := [] }
  | '#' :: _ => must (do comment; orElse newline ending; return d) cs
  | '[' :: _ => must (header d) cs
  | '\n' :: _ | '\r' :: _ => (do newline; return d : Scan Draft) cs
  | _ => must (check (keyLine origin) fun l => (d.add l).mapError Clash.message) cs

def linesFrom (origin : Origin) (fuel : Nat) (d : Draft) : Scan Draft :=
  match fuel with
  | 0 => pure d
  | fuel + 1 => do
    match ← maybe (line origin d) with
    | none => return d
    | some d =>
      let _ ← spaces
      linesFrom origin fuel d

/-- The members of a document, all of them written in the file `origin`. -/
def read (origin : Origin) (s : String) : Except String (List (String × Tree)) :=
  let cs := s.toList
  let document : Scan Draft := do
    let _ ← maybe (char '\ufeff')
    let _ ← spaces
    let d ← linesFrom origin (cs.length + 1) Draft.empty
    ending
    return d
  match document cs with
  | .error m => .error (m.report cs)
  | .ok (d, _) =>
    match d.close with
    | .error c => .error (c.message ++ "\n")
    | .ok t => .ok (Item.toMembers origin t.members)

end Courier.Configuration.Toml
