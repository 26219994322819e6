import Courier.Number.Decimal
import Courier.Text.Quoted
/-
What a Redis server replies, and what is wrong with a reply: the server may
report an error, or the reply may be of a kind that the command does not have.
-/

namespace Courier.Redis

inductive Reply
  | nothing
  | int (n : Int)
  | text (s : String)
  | list (items : List Reply)
  | failed (text : String)
  deriving Repr, Inhabited

mutual

/-- A reply as it is named in an error. -/
def Reply.phrase : Reply → String
  | .nothing => "nil"
  | .int n => "int(" ++ Number.text n ++ ")"
  | .text s => "bulk-string('" ++ Text.quote s ++ "')"
  | .list items => "array([" ++ String.intercalate ", " (phrases items) ++ "])"
  | .failed t => "Server error: `" ++ t ++ "`"

def phrases : List Reply → List String
  | [] => []
  | r :: rs => r.phrase :: phrases rs

end

/-- The kinds of errors that have a name of their own, by the word a server begins them with. -/
def errorNames : List (String × String) :=
  [("ERR", "ResponseError"), ("EXECABORT", "ExecAbortError"), ("LOADING", "BusyLoadingError"),
   ("NOSCRIPT", "NoScriptError"), ("MOVED", "Moved"), ("ASK", "Ask"), ("TRYAGAIN", "TryAgain"),
   ("CLUSTERDOWN", "ClusterDown"), ("CROSSSLOT", "CrossSlot"), ("MASTERDOWN", "MasterDown"),
   ("READONLY", "ReadOnly"), ("NOTBUSY", "NotBusy")]

inductive Error
  /-- An error that the server reports, beginning with a word for its kind. -/
  | reported (text : String)
  /-- A reply that cannot be taken as what is wanted. -/
  | mismatch (reason : String) (reply : Reply)
  /-- A block of commands is not answered by the replies to its commands. -/
  | badBlock
  /-- The address of the server is not usable. -/
  | address (reason : String)
  /-- The address asks for a version of the server's language that there is not. -/
  | version (name : String)
  deriving Repr, Inhabited

namespace Error

/-- The first word of a text and what follows the blank after it. -/
def firstWord (cs : List Char) : List Char × Option (List Char) :=
  match cs.dropWhile (· ≠ ' ') with
  | [] => (cs, none)
  | _ :: r => (cs.takeWhile (· ≠ ' '), some r)

def message : Error → String
  | reported t =>
    let (word, rest) := firstWord t.toList
    let word := String.ofList word
    match errorNames.lookup word, rest with
    | some name, some rest => "An error was signalled by the server - " ++ name ++ ": " ++ String.ofList rest
    | some name, none => "An error was signalled by the server- " ++ name
    | none, some rest => word ++ ": " ++ String.ofList rest
    | none, none => word ++ ": Unknown extension error encountered"
  | mismatch reason reply =>
    "Response was of incompatible type - TypeError: " ++ Text.quote reason ++ " (response was " ++ reply.phrase ++ ")"
  | badBlock => "Invalid response when parsing multi response- ResponseError"
  | address reason => reason ++ "- InvalidClientConfig"
  | version name => "Invalid protocol version - InvalidClientConfig: " ++ name

end Error

namespace Reply

mutual

/-- The first error in a reply. -/
def error? : Reply → Option Error
  | .failed t => some (.reported t)
  | .list items => errorIn? items
  | _ => none

def errorIn? : List Reply → Option Error
  | [] => none
  | r :: rs => (r.error?).orElse fun _ => errorIn? rs

end

/-- A reply that reports no error. -/
def checked (r : Reply) : Except Error Reply :=
  match r.error? with
  | some e => .error e
  | none => .ok r

/-- A text; a number is written out. -/
def asText (r : Reply) : Except Error String :=
  match r with
  | .text s => .ok s
  | .int n => .ok (Number.text n)
  | r => .error (.mismatch "Response type not string compatible." r)

/-- A text, or nothing. -/
def asText? (r : Reply) : Except Error (Option String) :=
  match r with
  | .nothing => .ok none
  | r => r.asText.map some

/-- Texts; a text alone is a list of one. -/
def asTexts (r : Reply) : Except Error (List String) :=
  match r with
  | .list items => items.mapM asText
  | .text s => .ok [s]
  | .nothing => .ok []
  | r => .error (.mismatch "Response type not vector compatible." r)

/-- A number between two bounds; a number as such is not compared with them. -/
def asNumber (low high : Int) (r : Reply) : Except Error Int :=
  match r with
  | .int n => .ok n
  | .text s =>
    match Number.intWithin? low high s.toList with
    | some n => .ok n
    | none => .error (.mismatch "Could not convert from string." r)
  | r => .error (.mismatch "Response type not convertible to numeric." r)

/-- A number of 64 bits. -/
def asInt (r : Reply) : Except Error Int := r.asNumber (-2 ^ 63) (2 ^ 63 - 1)

/-- A count of 64 bits; a negative number stands for what it is without a sign. -/
def asCount (r : Reply) : Except Error Nat := (r.asNumber 0 (2 ^ 64 - 1)).map fun n => (n % 2 ^ 64).toNat

end Reply
end Courier.Redis
