import Courier.Encryption.Age
import Courier.Rehearsal.Running
/-
The command line: a dry run of the relay that the current folder configures.
Each line of the standard input is a request to the relay: a method, an address
and, after another blank, a body. The responses and the commands that would
deliver the messages are written to the standard output; no command is run and
no connection is opened.
-/

namespace Courier.DryRun

open Rehearsal (Act Scene Running)

/-- A file's text, or nothing. -/
def contents? (name : String) : IO (Option String) := do
  try return some (← IO.FS.readFile name)
  catch _ => return none

/-- Some files of the current folder. -/
def folder (names : List String) : IO Configuration.Folder := do
  let found ← names.mapM fun n => do return (n, ← contents? n)
  return fun name => (found.lookup name).join

/-- A variable and its value, which follows the first sign of equality. -/
def assignment? (s : String) : Option (String × String) :=
  match s.toList.span (· ≠ '=') with
  | (name, _ :: value) => some (String.ofList name, String.ofList value)
  | (_, []) => none

/-- The variables of this program, each of which ends with a zero. -/
def environment : IO Configuration.Variables := do
  let text := (← contents? "/proc/self/environ").getD ""
  return (text.splitOn "\x00").filterMap assignment?

/-- The files that may hold settings of a mode. -/
def settingsFiles (mode : String) : List String :=
  ["config/default", "config/" ++ mode].flatMap fun n =>
    n :: Configuration.Format.all.map fun f => n ++ "." ++ f.ending

/-- The relay that the current folder asks for. -/
def relay : IO (Except RelayError Relay) := do
  let vs ← environment
  let known := Settings.environment (← folder [".env"]) vs
  let files ← folder (".env" :: settingsFiles (Settings.runMode known))
  return Relay.load files vs Calendar.Moment.epoch

/-- The request that a line stands for. -/
def request (line : String) : HttpRequest :=
  match line.splitOn " " with
  | method :: address :: body => .ofAddress method address [] (Text.encode (String.intercalate " " body))
  | other => .ofAddress "GET" (String.join other) [] []

/-- Has requests answered, and waits after each until its message is delivered. -/
def visit (requests : List HttpRequest) (s : Service) : Act Scene Unit :=
  requests.forM fun r => do
    let answer ← Rehearsal.Serving.respond s (Running.alone r)
    Scene.report (.object [("status", .int answer.status), ("body", .text answer.body)])
    let _ ← Running.settle s Running.lookLimit

/-- What is told of a command. -/
def commandValue (c : Command) : Json.Value := .object [("command", .array ((c.program :: c.args).map .text))]

/-- A dry run: what was answered, the commands that would deliver, and what is told if the relay fails. -/
def run (relay : Relay) (worker : Worker) (requests : List HttpRequest) : List Json.Value × Option String :=
  let course : Act Scene Unit := do
    if let .error e ← Running.run { relay, worker, visit := visit requests } then
      Act.modify fun s => { s with failure := some e.report }
  let s := (course.perform {}).1
  (s.reported ++ s.runs.map commandValue, s.failure)

/-- The lines of the standard input that are not empty. -/
def inputLines : IO (List String) := do
  let text ← (← IO.getStdin).readToEnd
  return (text.splitOn "\n").filter (· ≠ "")

/-- Writes what went wrong. -/
def fail (report : String) : IO UInt32 := do
  (← IO.getStderr).putStr report
  return 1

end Courier.DryRun

def main : IO UInt32 := do
  match ← Courier.DryRun.relay with
  | .error e => Courier.DryRun.fail e.report
  | .ok relay => do
    let seed := (← IO.getRandomBytes 32).toList
    let requests := (← Courier.DryRun.inputLines).map Courier.DryRun.request
    let (told, failure) := Courier.DryRun.run relay { cipher := Courier.Encryption.Age.cipher seed } requests
    for v in told do IO.println v.compact
    match failure with
    | some report => Courier.DryRun.fail report
    | none => return 0
