import Courier.Json.Value
import Courier.Json.Failure
/-
Writing values: in one line without blanks, or indented by two blanks for each
level. Quotes, backslashes and controls in texts are escaped, everything else
stands as it is.
-/

namespace Courier.Json

/-- One character of a text. -/
def escapeChar (c : Char) : List Char :=
  if c = '"' then ['\\', '"']
  else if c = '\\' then ['\\', '\\']
  else if c = '\n' then ['\\', 'n']
  else if c = '\r' then ['\\', 'r']
  else if c = '\t' then ['\\', 't']
  else if c = '\x08' then ['\\', 'b']
  else if c = '\x0c' then ['\\', 'f']
  else if c.toNat < 0x20 then
    ['\\', 'u', '0', '0', Text.hexDigit (c.toNat / 16), Text.hexDigit (c.toNat % 16)]
  else [c]

/-- A text between quotes. -/
def quoteText (s : String) : List Char := '"' :: (s.toList.flatMap escapeChar ++ ['"'])

mutual

/-- A value in one line. -/
def compactChars : Value → List Char
  | .null => ['n', 'u', 'l', 'l']
  | .bool b => if b then ['t', 'r', 'u', 'e'] else ['f', 'a', 'l', 's', 'e']
  | .int n => Number.decimal n
  | .real x => (x.render realStyle).toList
  | .text s => quoteText s
  | .array xs => '[' :: (compactElements xs ++ [']'])
  | .object ms => '\x7b' :: (compactMembers ms ++ ['\x7d'])

def compactElements : List Value → List Char
  | [] => []
  | [v] => compactChars v
  | v :: w :: r => compactChars v ++ ',' :: compactElements (w :: r)

def compactMembers : List (String × Value) → List Char
  | [] => []
  | [(k, v)] => quoteText k ++ ':' :: compactChars v
  | (k, v) :: m :: r => quoteText k ++ ':' :: (compactChars v ++ ',' :: compactMembers (m :: r))

end

/-- A value in one line. -/
def Value.compact (v : Value) : String := String.ofList (compactChars v)

/-- A new line at a level of nesting. -/
def newLine (level : Nat) : List Char := '\n' :: List.replicate (2 * level) ' '

mutual

/-- A value over several lines, starting at a level of nesting. -/
def prettyChars (level : Nat) : Value → List Char
  | .array [] => ['[', ']']
  | .array (x :: xs) => '[' :: (prettyElements (level + 1) (x :: xs) ++ (newLine level ++ [']']))
  | .object [] => ['\x7b', '\x7d']
  | .object (m :: ms) => '\x7b' :: (prettyMembers (level + 1) (m :: ms) ++ (newLine level ++ ['\x7d']))
  | v => compactChars v

def prettyElements (level : Nat) : List Value → List Char
  | [] => []
  | [v] => newLine level ++ prettyChars level v
  | v :: w :: r => newLine level ++ (prettyChars level v ++ ',' :: prettyElements level (w :: r))

def prettyMembers (level : Nat) : List (String × Value) → List Char
  | [] => []
  | [(k, v)] => newLine level ++ (quoteText k ++ ':' :: ' ' :: prettyChars level v)
  | (k, v) :: m :: r =>
    newLine level ++ (quoteText k ++ ':' :: ' ' :: (prettyChars level v ++ ',' :: prettyMembers level (m :: r)))

end

/-- A value over several lines. -/
def Value.pretty (v : Value) : String := String.ofList (prettyChars 0 v)

end Courier.Json
