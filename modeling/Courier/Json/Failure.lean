import Courier.Json.Source
import Courier.Number.Shortest
import Courier.Text.Quoted
/-
Why a text cannot be read as a value of the wanted form, and where. The wording
of every cause is in one place; the line and the column follow it.
-/

namespace Courier.Json

open Courier.Number (Binary64)

/-- What was found where something else was wanted. -/
inductive Found
  | flag (b : Bool)
  | whole (n : Int)
  | real (x : Binary64)
  | text (s : String)
  | null
  | sequence
  | map
  deriving Repr

inductive Cause
  | endInList | endInObject | endInText | endInValue
  | wantColon | wantListComma | wantObjectComma | wantLiteral | wantValue | wantTextKey
  | badEscape | badNumber | numberRange | badCharacter | controlCharacter
  | loneSurrogate | endOfHexEscape | trailingComma | trailingText | tooDeep
  | wrongType (found : Found) (wanted : String)
  | wrongValue (found : Found) (wanted : String)
  | wrongLength (n : Nat) (wanted : String)
  | unknownVariant (name : String) (known : List String)
  | missingField (name : String)
  | duplicateField (name : String)
  | other (text : String)
  deriving Repr

/-- How doubles are written in values: positional from 1e-5 on and below 1e16,
with `.0` after a whole number, and with the sign of an exponent. -/
def realStyle : Binary64.Style := ⟨-5, 16, true, ".0"⟩

def Found.show : Found → String
  | .flag b => "boolean `" ++ (if b then "true" else "false") ++ "`"
  | .whole n => "integer `" ++ Number.text n ++ "`"
  | .real x => "floating point `" ++ x.render realStyle ++ "`"
  | .text s => "string " ++ Text.quote s
  | .null => "null"
  | .sequence => "sequence"
  | .map => "map"

/-- The names of variants, for the end of a sentence. -/
def oneOf (known : List String) : String :=
  match known with
  | [] => "there are no variants"
  | [a] => "expected `" ++ a ++ "`"
  | [a, b] => "expected `" ++ a ++ "` or `" ++ b ++ "`"
  | many => "expected one of " ++ String.intercalate ", " (many.map fun a => "`" ++ a ++ "`")

def Cause.message : Cause → String
  | .endInList => "EOF while parsing a list"
  | .endInObject => "EOF while parsing an object"
  | .endInText => "EOF while parsing a string"
  | .endInValue => "EOF while parsing a value"
  | .wantColon => "expected `:`"
  | .wantListComma => "expected `,` or `]`"
  | .wantObjectComma => "expected `,` or `\x7d`"
  | .wantLiteral => "expected ident"
  | .wantValue => "expected value"
  | .wantTextKey => "key must be a string"
  | .badEscape => "invalid escape"
  | .badNumber => "invalid number"
  | .numberRange => "number out of range"
  | .badCharacter => "invalid unicode code point"
  | .controlCharacter => "control character (\\u0000-\\u001F) found while parsing a string"
  | .loneSurrogate => "lone leading surrogate in hex escape"
  | .endOfHexEscape => "unexpected end of hex escape"
  | .trailingComma => "trailing comma"
  | .trailingText => "trailing characters"
  | .tooDeep => "recursion limit exceeded"
  | .wrongType f w => "invalid type: " ++ f.show ++ ", expected " ++ w
  | .wrongValue f w => "invalid value: " ++ f.show ++ ", expected " ++ w
  | .wrongLength n w => "invalid length " ++ toString n ++ ", expected " ++ w
  | .unknownVariant name known => "unknown variant `" ++ name ++ "`, " ++ oneOf known
  | .missingField name => "missing field `" ++ name ++ "`"
  | .duplicateField name => "duplicate field `" ++ name ++ "`"
  | .other text => text

/-- A cause, and how many octets of the text come after the place it names.
The place is not known until the value around it has been passed. -/
structure Failure where
  cause : Cause
  left : Option Nat
  deriving Repr

/-- The cause with the line and the column of its place in a text. -/
def Failure.message (f : Failure) (whole : Source) : String :=
  match f.left with
  | none => f.cause.message
  | some left =>
    let (line, column) := Source.place 1 0 (Source.octets whole - left) whole
    f.cause.message ++ " at line " ++ toString line ++ " column " ++ toString column

end Courier.Json
