import Courier.Template.FieldPath
import Courier.Json.Render
/-
Templates: a bare path, or text with actions between doubled braces that look
up a path of the webhook or an argument. A template is read once and then
rendered against whatever answers its lookups.
-/

namespace Courier

open Json (Value)

/-- What an action looks up. -/
inductive Lookup
  | webhook (path : FieldPath)
  | arg (name : String)
  deriving DecidableEq, Repr

inductive Part
  | literal (text : String)
  | lookup (l : Lookup)
  deriving DecidableEq, Repr

structure Template where
  parts : List Part
  /-- Whether the template is a path alone. -/
  bare : Bool
  deriving DecidableEq, Repr

/-- A rendered template, and whether it counts as found. -/
structure Rendered where
  text : String
  found : Bool
  deriving DecidableEq, Repr

namespace Template

/-- What stands before and after the first place with a character twice in a row. -/
def splitPair? (c : Char) : List Char → Option (List Char × List Char)
  | a :: b :: r =>
    if a = c ∧ b = c then some ([], r)
    else (splitPair? c (b :: r)).map fun p => (a :: p.1, p.2)
  | _ => none

/-- The octets of some characters. -/
def octets (cs : List Char) : Nat := cs.foldl (fun n c => n + c.utf8Size) 0

/-- Reads one quoted text with nothing but blanks after it; a backslash takes
the next character as it is. -/
def quotedBody (acc : List Char) : List Char → Option (List Char)
  | [] => none
  | '\\' :: c :: r => quotedBody (c :: acc) r
  | ['\\'] => none
  | '"' :: r => if Text.trim r = [] then some acc.reverse else none
  | c :: r => quotedBody (c :: acc) r

/-- Reads a quoted text from its opening quote on. -/
def parseQuoted : List Char → Option (List Char)
  | '"' :: r => quotedBody [] r
  | _ => none

/-- The function of an action and its argument, blanks around them left out. -/
def splitAction (cs : List Char) : List Char × List Char :=
  let t := Text.trim cs
  let function := t.takeWhile fun c => !Text.isBlank c
  (function, Text.trim (t.drop function.length))

/-- Reads what stands between the braces of an action. -/
def parseAction (cs : List Char) : Except TemplateError Lookup :=
  let (function, argument) := splitAction cs
  let name := String.ofList function
  if name = "webhook" then
    match parseQuoted argument with
    | none => .error (.missingArgument name)
    | some path => (FieldPath.parseChars path).map .webhook
  else if name = "arg" then
    match parseQuoted argument with
    | none => .error (.missingArgument name)
    | some arg => .ok (.arg (String.ofList arg))
  else .error (.unknownFunction name)

/-- A literal in front of other parts, unless it is empty. -/
def literalThen (text : List Char) (parts : List Part) : List Part :=
  if text.isEmpty then parts else .literal (String.ofList text) :: parts

theorem splitPair?_length {c : Char} {s before after : List Char} (h : splitPair? c s = some (before, after)) :
    after.length + 2 ≤ s.length := by
  induction s generalizing before after with
  | nil => simp [splitPair?] at h
  | cons a t ih =>
    cases t with
    | nil => simp [splitPair?] at h
    | cons b r =>
      simp only [splitPair?] at h
      split at h
      · simp only [Option.some.injEq, Prod.mk.injEq] at h
        obtain ⟨-, rfl⟩ := h
        simp
      · simp only [Option.map_eq_some_iff] at h
        obtain ⟨⟨x, y⟩, hp, he⟩ := h
        simp only [Prod.mk.injEq] at he
        obtain ⟨-, rfl⟩ := he
        have := ih hp
        simp only [List.length_cons] at this ⊢
        omega

/-- Reads the parts of a text that starts `offset` octets into the template. -/
def partsFrom (offset : Nat) (s : List Char) : Except TemplateError (List Part) :=
  match _h : splitPair? '\x7b' s with
  | none => .ok (literalThen s [])
  | some (before, opened) =>
    match _h' : splitPair? '\x7d' opened with
    | none => .error (.unterminated (offset + octets before))
    | some (action, after) =>
      match parseAction action with
      | .error e => .error e
      | .ok l =>
        match partsFrom (offset + octets before + octets action + 4) after with
        | .error e => .error e
        | .ok parts => .ok (literalThen before (.lookup l :: parts))
termination_by s.length
decreasing_by
  have h1 := splitPair?_length _h
  have h2 := splitPair?_length _h'
  omega

/-- Reads text with actions. -/
def parse (source : String) : Except TemplateError Template :=
  (partsFrom 0 source.toList).map fun parts => ⟨parts, false⟩

/-- Reads the template of a field: a bare path unless it holds doubled braces. -/
def parseField (source : String) : Except TemplateError Template :=
  let cs := source.toList
  if (splitPair? '\x7b' cs).isSome then parse source
  else if Text.trim cs = [] then .error .empty
  else (FieldPath.parseChars cs).map fun path => ⟨[.lookup (.webhook path)], true⟩

/-- How many lookups a template has. -/
def lookups (t : Template) : List Lookup :=
  t.parts.filterMap fun
    | .literal _ => none
    | .lookup l => some l

/-- The text of one part; a lookup that finds nothing gives none. -/
def renderPart (resolve : Lookup → Option String) : Part → String
  | .literal s => s
  | .lookup l => (resolve l).getD ""

/-- Renders a template. A bare path is found if it leads somewhere, a text if
one of its lookups does or if it has none. -/
def render (t : Template) (resolve : Lookup → Option String) : Rendered where
  text := String.join (t.parts.map (renderPart resolve))
  found :=
    let resolved := t.lookups.any fun l => (resolve l).isSome
    if t.bare then resolved else t.lookups.isEmpty || resolved

/-- A value as templates show it: texts as they are, others in their written
form. Null and empty containers count as absent. -/
def renderValue : Value → Option String
  | .null => none
  | .text s => some s
  | .array [] => none
  | .object [] => none
  | v => some v.compact

end Template
end Courier
