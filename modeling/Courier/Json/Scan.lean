import Courier.Json.Failure
/-
The words of the format: blanks, literals, numbers, quoted texts, and passing
over a value that nobody wants. Every scanner gives what it read with the rest
of the text, or a failure with the rest at which it gave up.
-/

namespace Courier.Json

open Courier.Number (Binary64 digit?)

/-- What was read and the rest of the text, or why nothing could be read. -/
inductive Outcome (α : Type)
  | done (a : α) (rest : Source)
  | failed (f : Failure) (rest : Source)
  deriving Repr

namespace Outcome

def map {α β : Type} (f : α → β) : Outcome α → Outcome β
  | done a r => done (f a) r
  | failed e r => failed e r

/-- Goes on with what was read. -/
def andThen {α β : Type} (o : Outcome α) (next : α → Source → Outcome β) : Outcome β :=
  match o with
  | done a r => next a r
  | failed e r => failed e r

/-- The text that remains either way. -/
def rest {α : Type} : Outcome α → Source
  | done _ r => r
  | failed _ r => r

/-- Gives a failure without a place the place at which reading stopped. -/
def placed {α : Type} : Outcome α → Outcome α
  | failed ⟨c, none⟩ r => failed ⟨c, some (Source.octets r)⟩ r
  | o => o

end Outcome

/-- A failure at the place reached. -/
def failHere {α : Type} (c : Cause) (rest : Source) : Outcome α :=
  .failed ⟨c, some (Source.octets rest)⟩ rest

/-- A failure one octet further, where the next character stands. -/
def failNext {α : Type} (c : Cause) (rest : Source) : Outcome α :=
  .failed ⟨c, some (Source.octets rest - 1)⟩ rest

/-- A failure that takes the place of the value around it. -/
def failUnplaced {α : Type} (c : Cause) (rest : Source) : Outcome α := .failed ⟨c, none⟩ rest

/-- Whether a character may stand between the words of the format. -/
def isGap (c : Char) : Bool := c == ' ' || c == '\n' || c == '\t' || c == '\r'

/-- The text after the blanks it starts with. -/
def skipGap : Source → Source
  | some c :: r => if isGap c then skipGap r else some c :: r
  | r => r

/-- Reads exactly the given characters. -/
def literal : List Char → Source → Outcome Unit
  | [], r => .done () r
  | _ :: _, [] => failHere .endInValue []
  | c :: cs, x :: r =>
    if x = some c then literal cs r
    else .failed ⟨.wantLiteral, some (Source.octets (x :: r) - 1)⟩ r

/-! ## Numbers -/

/-- A number as it stands in the text: whole, or a double. -/
inductive Numeral
  | whole (n : Int)
  | real (x : Binary64)
  deriving Repr

def maxU64 : Nat := 2 ^ 64 - 1

/-- Reads digits into a significand of 64 bits. Gives the significand, how many
digits went into it, whether a digit that does not fit follows, and the rest. -/
def significand (acc count : Nat) : Source → Nat × Nat × Bool × Source
  | some c :: r =>
    match digit? c with
    | some d =>
      if acc * 10 + d ≤ maxU64 then significand (acc * 10 + d) (count + 1) r
      else (acc, count, true, some c :: r)
    | none => (acc, count, false, some c :: r)
  | r => (acc, count, false, r)

/-- Passes over digits and counts them. -/
def skipDigits (count : Nat) : Source → Nat × Source
  | some c :: r => if (digit? c).isSome then skipDigits (count + 1) r else (count, some c :: r)
  | r => (count, r)

/-- The double made of a significand by multiplying or dividing with powers of
ten that are doubles themselves. Nothing if it is too large. -/
def scaled (fuel : Nat) (x : Binary64) (exponent : Int) : Option Binary64 :=
  if exponent.natAbs ≤ 308 then
    let p := Binary64.ofNat (10 ^ exponent.natAbs)
    if 0 ≤ exponent then
      match x.mul p with
      | .infinite _ => none
      | y => some y
    else some (x.div p)
  else if x.isZero then some x
  else if 0 ≤ exponent then none
  else match fuel with
    | 0 => some x
    | fuel + 1 => scaled fuel (x.div (Binary64.ofNat (10 ^ 308))) (exponent + 308)

/-- A double with its sign, or the failure of one that is too large. -/
def realOf (positive : Bool) (n : Nat) (exponent : Int) (rest : Source) : Outcome Numeral :=
  match scaled 5 (Binary64.ofNat n) exponent with
  | some x => .done (.real (if positive then x else x.neg)) rest
  | none => failHere .numberRange rest

/-- Bounds of the exponents that are told apart. -/
def exponentLimit : Nat := 2 ^ 31 - 1

/-- Reads the digits of an exponent; nothing if it passes the limit, with the place of the digit. -/
def exponentDigits (acc : Nat) : Source → Option Nat × Source
  | some c :: r =>
    match digit? c with
    | some d =>
      if acc * 10 + d ≤ exponentLimit then exponentDigits (acc * 10 + d) r else (none, r)
    | none => (some acc, some c :: r)
  | r => (some acc, r)

/-- Reads an exponent, the text standing at its letter. -/
def exponentPart (positive : Bool) (n : Nat) (start : Int) (s : Source) : Outcome Numeral :=
  let s := s.tail
  let (up, s) := match s with
    | some '+' :: r => (true, r)
    | some '-' :: r => (false, r)
    | r => (true, r)
  match s with
  | [] => failHere .endInValue []
  | none :: r => failHere .badNumber r
  | some c :: r =>
    match digit? c with
    | none => .failed ⟨.badNumber, some (Source.octets (some c :: r) - 1)⟩ r
    | some d =>
      match exponentDigits d r with
      | (some e, r) => realOf positive n (if up then start + e else start - e) r
      | (none, r) =>
        if n ≠ 0 ∧ up then failHere .numberRange r
        else
          let (_, r) := skipDigits 0 r
          .done (.real (Binary64.zero (!positive))) r

/-- Reads the digits after a point, the text standing at the point. -/
def fractionPart (positive : Bool) (n : Nat) (before : Int) (s : Source) : Outcome Numeral :=
  let (m, count, full, s) := significand n 0 s.tail
  let exponent := before - count
  let go (s : Source) : Outcome Numeral :=
    match s with
    | some 'e' :: _ | some 'E' :: _ => exponentPart positive m exponent s
    | _ => realOf positive m exponent s
  if full then go (skipDigits 0 s).2
  else if count = 0 then
    match s with
    | [] => failNext .endInValue []
    | s => failNext .badNumber s
  else go s

/-- What follows the digits of a whole number that fits. -/
def afterWhole (positive : Bool) (n : Nat) (s : Source) : Outcome Numeral :=
  match s with
  | some '.' :: _ => fractionPart positive n 0 s
  | some 'e' :: _ | some 'E' :: _ => exponentPart positive n 0 s
  | _ =>
    if positive then .done (.whole n) s
    else if n = 0 ∨ 2 ^ 63 < n then .done (.real (Binary64.ofNat n).neg) s
    else .done (.whole (-(n : Int))) s

/-- Reads a number after its minus sign, if it had one. -/
def numeral (positive : Bool) : Source → Outcome Numeral
  | [] => failHere .endInValue []
  | none :: r => failHere .badNumber r
  | some c :: r =>
    match digit? c with
    | none => .failed ⟨.badNumber, some (Source.octets (some c :: r) - 1)⟩ r
    | some 0 =>
      match r with
      | some d :: _ => if (digit? d).isSome then failNext .badNumber r else afterWhole positive 0 r
      | _ => afterWhole positive 0 r
    | some d =>
      match significand d 1 r with
      | (n, _, true, r) =>
        let (more, r) := skipDigits 0 r
        match r with
        | some '.' :: _ => fractionPart positive n more r
        | some 'e' :: _ | some 'E' :: _ => exponentPart positive n more r
        | _ => realOf positive n more r
      | (n, _, false, r) => afterWhole positive n r

/-! ## Quoted texts -/

/-- The value of four hexadecimal digits. -/
def hex4? (a b c d : Option Char) : Option Nat := do
  let a ← Text.hexDigit? (← a)
  let b ← Text.hexDigit? (← b)
  let c ← Text.hexDigit? (← c)
  let d ← Text.hexDigit? (← d)
  return ((a * 16 + b) * 16 + c) * 16 + d

/-- The failure of four octets that are no hexadecimal digits, or not four. -/
def badHex {α : Type} (s : Source) : Outcome α :=
  let n := Source.octets s
  if n < 4 then .failed ⟨.endInText, some 0⟩ [] else .failed ⟨.badEscape, some (n - 4)⟩ s

/-- The character that a backslash and a letter stand for. -/
def escaped? : Char → Option Char
  | '"' => some '"'
  | '\\' => some '\\'
  | '/' => some '/'
  | 'b' => some '\x08'
  | 'f' => some '\x0c'
  | 'n' => some '\n'
  | 'r' => some '\r'
  | 't' => some '\t'
  | _ => none

/-- The characters of a text up to its closing quote, in reverse after `acc`;
`sound` tells whether all octets so far belonged to characters. -/
def quotedFrom (acc : List Char) (sound : Bool) : Source → Outcome String
  | [] => failHere .endInText []
  | some '"' :: r =>
    if sound then .done (String.ofList acc.reverse) r else .failed ⟨.badCharacter, some (Source.octets r + 1)⟩ r
  | some '\\' :: some 'u' :: a :: b :: c :: d :: r =>
    match hex4? a b c d with
    | none => badHex (a :: b :: c :: d :: r)
    | some n =>
      if 0xDC00 ≤ n ∧ n ≤ 0xDFFF then failHere .loneSurrogate r
      else if n < 0xD800 ∨ 0xDBFF < n then quotedFrom (Char.ofNat n :: acc) sound r
      else match r with
        | [] => failHere .endInText []
        | some '\\' :: some 'u' :: a :: b :: c :: d :: r =>
          match hex4? a b c d with
          | none => badHex (a :: b :: c :: d :: r)
          | some m =>
            if m < 0xDC00 ∨ 0xDFFF < m then failHere .loneSurrogate r
            else quotedFrom (Char.ofNat ((n - 0xD800) * 0x400 + (m - 0xDC00) + 0x10000) :: acc) sound r
        | some '\\' :: some 'u' :: r => badHex r
        | some '\\' :: [] => failHere .endInText []
        | some '\\' :: r => failNext .endOfHexEscape r
        | r => failNext .endOfHexEscape r
  | some '\\' :: some 'u' :: r => badHex r
  | some '\\' :: some c :: r =>
    match escaped? c with
    | some x => quotedFrom (x :: acc) sound r
    | none => .failed ⟨.badEscape, some (Source.octets (some c :: r) - 1)⟩ r
  | some '\\' :: none :: r => failHere .badEscape r
  | some '\\' :: [] => failHere .endInText []
  | some c :: r => if c.toNat < 0x20 then failHere .controlCharacter r else quotedFrom (c :: acc) sound r
  | none :: r => quotedFrom acc false r

/-- A text after its opening quote. -/
def quoted (s : Source) : Outcome String := quotedFrom [] true s

/-! ## Values that nobody wants -/

/-- Passes over the characters of a text up to its closing quote. -/
def skipQuoted : Source → Outcome Unit
  | [] => failHere .endInText []
  | some '"' :: r => .done () r
  | some '\\' :: some 'u' :: a :: b :: c :: d :: r =>
    match hex4? a b c d with
    | none => badHex (a :: b :: c :: d :: r)
    | some _ => skipQuoted r
  | some '\\' :: some 'u' :: r => badHex r
  | some '\\' :: some c :: r =>
    match escaped? c with
    | some _ => skipQuoted r
    | none => .failed ⟨.badEscape, some (Source.octets (some c :: r) - 1)⟩ r
  | some '\\' :: none :: r => failHere .badEscape r
  | some '\\' :: [] => failHere .endInText []
  | some c :: r => if c.toNat < 0x20 then failHere .controlCharacter (some c :: r) else skipQuoted r
  | none :: r => skipQuoted r

/-- Passes over an exponent, the text standing at its letter. -/
def skipExponent (s : Source) : Outcome Unit :=
  let s := match s.tail with
    | some '+' :: r | some '-' :: r => r
    | r => r
  match s with
  | some c :: r =>
    if (digit? c).isSome then .done () (skipDigits 0 r).2
    else .failed ⟨.badNumber, some (Source.octets (some c :: r) - 1)⟩ r
  | none :: r => failHere .badNumber r
  | [] => failHere .badNumber []

/-- Passes over what may follow the whole part of a number. -/
def skipAfterWhole (s : Source) : Outcome Unit :=
  match s with
  | some '.' :: r =>
    match skipDigits 0 r with
    | (0, r) => failNext .badNumber r
    | (_, r) =>
      match r with
      | some 'e' :: _ | some 'E' :: _ => skipExponent r
      | _ => .done () r
  | some 'e' :: _ | some 'E' :: _ => skipExponent s
  | _ => .done () s

/-- Passes over a number after its minus sign, if it had one. -/
def skipNumeral : Source → Outcome Unit
  | [] => failHere .badNumber []
  | none :: r => failHere .badNumber r
  | some c :: r =>
    match digit? c with
    | none => .failed ⟨.badNumber, some (Source.octets (some c :: r) - 1)⟩ r
    | some 0 =>
      match r with
      | some d :: _ => if (digit? d).isSome then failNext .badNumber r else skipAfterWhole r
      | _ => skipAfterWhole r
    | some _ => skipAfterWhole (skipDigits 0 r).2

/-- What comes after a value inside the lists and objects around it. -/
inductive Resume
  | closed
  | value (frames : List Char)
  | member (frames : List Char)

/-- Passes over the ends of the lists and objects that a value was the last of.
`frames` are the open brackets, the innermost first; `full` tells that a value
stands before. -/
def skipEnds (full : Bool) (frames : List Char) (s : Source) : Outcome Resume :=
  match frames with
  | [] => .done .closed s
  | frame :: outer =>
    match skipGap s with
    | [] => failNext (if frame = '[' then .endInList else .endInObject) []
    | some ',' :: r =>
      if full then .done (if frame = '[' then .value frames else .member frames) r
      else .done (if frame = '[' then .value frames else .member frames) (some ',' :: r)
    | x :: r =>
      if (x = some ']' ∧ frame = '[') ∨ (x = some '\x7d' ∧ frame ≠ '[') then skipEnds true outer r
      else if full then failNext (if frame = '[' then .wantListComma else .wantObjectComma) (x :: r)
      else .done (if frame = '[' then .value frames else .member frames) (x :: r)

/-- Passes over the key of a member and its colon. -/
def skipKey (s : Source) : Outcome Unit :=
  match skipGap s with
  | [] => failNext .endInObject []
  | some '"' :: r =>
    (skipQuoted r).andThen fun _ r =>
      match skipGap r with
      | [] => failNext .endInObject []
      | some ':' :: r => .done () r
      | r => failNext .wantColon r
  | r => failNext .wantTextKey r

/-- Passes over one value and what is around it, with a bound on the steps. -/
def skipFrom (fuel : Nat) (frames : List Char) (s : Source) : Outcome Unit :=
  match fuel with
  | 0 => .done () s
  | fuel + 1 =>
    let after (full : Bool) (frames : List Char) (s : Source) : Outcome Unit :=
      (skipEnds full frames s).andThen fun
        | .closed, r => .done () r
        | .value frames, r => skipFrom fuel frames r
        | .member frames, r => (skipKey r).andThen fun _ r => skipFrom fuel frames r
    match skipGap s with
    | [] => failNext .endInValue []
    | some 'n' :: r => (literal ['u', 'l', 'l'] r).andThen fun _ r => after true frames r
    | some 't' :: r => (literal ['r', 'u', 'e'] r).andThen fun _ r => after true frames r
    | some 'f' :: r => (literal ['a', 'l', 's', 'e'] r).andThen fun _ r => after true frames r
    | some '"' :: r => (skipQuoted r).andThen fun _ r => after true frames r
    | some '-' :: r => (skipNumeral r).andThen fun _ r => after true frames r
    | some '[' :: r => after false ('[' :: frames) r
    | some '\x7b' :: r => after false ('\x7b' :: frames) r
    | some c :: r =>
      if (digit? c).isSome then (skipNumeral (some c :: r)).andThen fun _ r => after true frames r
      else failNext .wantValue (some c :: r)
    | none :: r => failNext .wantValue (none :: r)

/-- Passes over one value. -/
def skipValue (s : Source) : Outcome Unit := skipFrom (s.length + 1) [] s

end Courier.Json
