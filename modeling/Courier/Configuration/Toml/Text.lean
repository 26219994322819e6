import Courier.Configuration.Toml.Scan
import Courier.Text.Quoted
/-
The four kinds of quoted texts: with escapes or without, on one line or on
several.
-/

namespace Courier.Configuration.Toml

open Scan

def isSpace (c : Char) : Bool := c == ' ' || c == '\t'

def spaces : Scan (List Char) := run isSpace

def newline : Scan Unit := orElse (do let _ ← char '\n') (exactly "\r\n")

/-- Whether a character may stand in a comment and in a text: a tab, or no control character. -/
def isPrintable (c : Char) : Bool := c == '\t' || (' ' ≤ c && c != '\x7f')

def isUnescaped (c : Char) : Bool := isPrintable c && c != '"' && c != '\\'

def isLiteral (c : Char) : Bool := isPrintable c && c != '\''

/-- A character by its number in hexadecimal, of exactly so many digits. -/
def byNumber (digits : Nat) : Scan (List Char) :=
  check (times digits fun c => (Text.hexDigit? c).isSome) fun ds =>
    let n := ds.foldl (fun n c => 16 * n + (Text.hexDigit? c).getD 0) 0
    if h : n.isValidChar then .ok [Char.ofNatAux n h] else .error "value is out of range"

/-- The escapes of one letter. -/
def letterEscapes : List (Char × Char) :=
  [('b', '\x08'), ('f', '\x0c'), ('n', '\n'), ('r', '\r'), ('t', '\t'), ('\\', '\\'), ('"', '"')]

def quotedNames (cs : List Char) : List String := cs.map fun c => String.ofList ['\x60', c, '\x60']

/-- What follows a backslash. -/
def escape : Scan (List Char) := fun cs =>
  match cs with
  | [] => .error { rest := [] }
  | 'u' :: r => must (named "unicode 4-digit hex code" (byNumber 4)) r
  | 'U' :: r => must (named "unicode 8-digit hex code" (byNumber 8)) r
  | c :: r =>
    match letterEscapes.lookup c with
    | some d => .ok ([d], r)
    | none =>
      must (named "escape sequence" (wanting (quotedNames ['b', 'f', 'n', 'r', 't', 'u', 'U', '\\', '"']) miss))
        (if c.utf8Size = 1 then r else c :: r)

def escaped : Scan (List Char) := do
  let _ ← char '\\'
  escape

def basicText : Scan (List Char) := do
  let _ ← char '"'
  let pieces ← many (orElse (run1 isUnescaped) escaped)
  let _ ← named "basic string" (must (char '"'))
  return pieces.flatten

def literalText : Scan (List Char) :=
  named "literal string" do
    let _ ← char '\''
    let t ← run isLiteral
    let _ ← must (char '\'')
    return t

/-! ## Several lines -/

/-- Line ends that a backslash hides, with the blanks after them. -/
def hiddenEnds : Scan (List Char) := do
  let _ ← many1 do
    let _ ← char '\\'
    let _ ← spaces
    newline
    many (orElse newline (do let _ ← run1 isSpace))
  return []

def basicContent : Scan (List Char) :=
  orElse (run1 isUnescaped) <| orElse hiddenEnds <| orElse escaped <| do
    newline
    return ['\n']

/-- One or two quotes that are followed in some way. -/
def quotes (q : Char) (after : Scan Unit) : Scan (List Char) :=
  orElse (do let _ ← char q; let _ ← char q; peek after; return [q, q])
    (do let _ ← char q; peek after; return [q])

def three (q : Char) : Scan Unit := exactly (String.ofList [q, q, q])

/-- The lines up to the three quotes, of which one or two more may stand before them. -/
def linesUpTo (q : Char) (content : Scan (List Char)) : Scan (List Char) := do
  let first ← many content
  let more ← many do
    let qs ← quotes q (do let _ ← one (· != q))
    let cs ← many1 content
    return qs ++ cs.flatten
  let last ← maybe (quotes q (three q))
  return first.flatten ++ more.flatten ++ last.getD []

def basicLines : Scan (List Char) :=
  named "multiline basic string" do
    three '"'
    let _ ← maybe newline
    let t ← must (linesUpTo '"' basicContent)
    must (three '"')
    return t

def literalLines : Scan (List Char) :=
  named "multiline literal string" do
    three '\''
    let _ ← maybe newline
    let t ← must (linesUpTo '\'' (orElse (run1 isLiteral) (do newline; return ['\n'])))
    must (three '\'')
    return t

/-- A quoted text of any kind. -/
def quoted : Scan String := do
  let t ← orElse basicLines <| orElse basicText <| orElse literalLines literalText
  return String.ofList t

end Courier.Configuration.Toml
