import Courier.Configuration.Reading
import Courier.Configuration.Toml.Document
import Courier.Configuration.Variables
import Courier.Json.Decoder
import Courier.Settings
/-
Where settings come from: built-in values, a file for every mode, a file for
the mode the relay runs in, and the environment, later ones over earlier ones.
A file is found by its name with or without the ending that tells its format.
-/

namespace Courier.Configuration

open Json (Value)

/-- The files within reach: the content of the file of a name, if there is one. -/
abbrev Folder := String → Option String

/-- The formats in which settings are written. -/
inductive Format
  | toml | json
  deriving DecidableEq, Repr

namespace Format

def all : List Format := [toml, json]

/-- The ending of the names of files in a format. -/
def ending : Format → String
  | toml => "toml"
  | json => "json"

mutual

/-- A value as a tree; whole numbers beyond 64 bits are doubles. -/
def treeOfValue (origin : Origin) : Value → Tree
  | .null => .nothing origin
  | .bool b => .flag b origin
  | .int n => if n < 2 ^ 63 then .whole n origin else .real (.ofInt n) origin
  | .real x => .real x origin
  | .text s => .text s origin
  | .array xs => .list (treesOfValues origin xs) origin
  | .object ms => .table (membersOfObject origin ms) origin

def treesOfValues (origin : Origin) : List Value → List Tree
  | [] => []
  | v :: r => treeOfValue origin v :: treesOfValues origin r

def membersOfObject (origin : Origin) : List (String × Value) → List (String × Tree)
  | [] => []
  | (k, v) :: r => (k, treeOfValue origin v) :: membersOfObject origin r

end

/-- What a file of a format says. -/
def read (f : Format) (file content : String) : Except Failure (List (String × Tree)) :=
  match f with
  | toml => (Toml.read (some file) content).mapError fun e => .malformed e file
  | json =>
    match Json.parse content with
    | .error e => .error (.malformed e file)
    | .ok (.object ms) => .ok (membersOfObject (some file) ms)
    | .ok v =>
      .error (.malformed (Failure.message (.misfit (.ofTree (treeOfValue none v)) "a map" none (some file))) file)

end Format

/-- A file by its name, with its parts put in plain form: no empty parts and no
parts that stay in place. -/
def plainName (name : String) : String :=
  String.intercalate "/" ((name.splitOn "/").filter fun p => p ≠ "" ∧ p ≠ ".")

/-- The ending of a name: what follows the last point that does not start it. -/
def nameEnding (name : String) : String :=
  match ((name.splitOn "/").getLast?.getD "").splitOn "." with
  | [] | [_] | ["", _] => ""
  | parts => parts.getLast?.getD ""

/-- A file that holds settings: its name, format and content. -/
def find (files : Folder) (name : String) : Except Failure (String × Format × String) :=
  let plain := plainName name
  match files plain with
  | some content =>
    match Format.all.find? fun f => f.ending == nameEnding plain with
    | some f => .ok (plain, f, content)
    | none => .error (.unknownFormat plain)
  | none =>
    match Format.all.findSome? fun f =>
      (files (plain ++ "." ++ f.ending)).map fun content => (plain ++ "." ++ f.ending, f, content) with
    | some found => .ok found
    | none => .error (.missingFile name)

/-- A tree with what a file says laid over it. -/
def addFile (files : Folder) (name : String) (needed : Bool) (root : Tree) : Except Failure Tree :=
  match find files name with
  | .error e => if needed then .error e else .ok root
  | .ok (file, format, content) => do
    return root.overlay (← format.read file content)

/-- The settings that hold if nothing else is said. -/
def builtIn : List (String × Tree) :=
  [("server.host", .text (ServerSettings.host {}) none),
   ("server.port", .whole (ServerSettings.port {}) none),
   ("redis.url", .text (RedisSettings.url {}) none),
   ("queue.backend", .text (QueueSettings.backend {}) none)]

end Courier.Configuration

namespace Courier.Settings

open Courier.Configuration

/-- Settings from the text of a JSON value. -/
def ofJson (s : String) : Except String Settings := Json.Decoder.ofString Settings.layout s

def ofTree (t : Tree) : Except Configuration.Failure Settings := (layout : Reading Settings) t

/-- Settings from one file. -/
def ofFile (files : Folder) (name : String) : Except Configuration.Failure Settings := do
  ofTree (← addFile files name true Tree.empty)

/-- The variables that hold: those set, and those of the file `.env`. -/
def environment (files : Folder) (vs : Variables) : Variables :=
  match files ".env" with
  | some content => vs.addFile content
  | none => vs

/-- The mode that the relay runs in, which has a file of settings of its own. -/
def runMode (vs : Variables) : String := (vs.lookup "RUN_MODE").getD "development"

/-- Settings from the files of the folder `config` and from variables. -/
def load (files : Folder) (vs : Variables) : Except Configuration.Failure Settings := do
  let vs := environment files vs
  let t := Tree.empty.overlay builtIn
  let t ← addFile files "config/default" false t
  let t ← addFile files ("config/" ++ runMode vs) false t
  ofTree (t.overlay vs.settings)

end Courier.Settings
