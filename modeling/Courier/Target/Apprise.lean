import Courier.Target.Registry
import Courier.Text.Utf8
/-
Delivery by a command line notifier, one run of it for each message. What it
connects to is a template over the arguments.
-/

namespace Courier

/-- How a run of a command ended. -/
inductive ExitStatus
  | code (n : Nat)
  | signal (n : Nat)
  deriving DecidableEq, Repr

namespace ExitStatus

def signalName (n : Nat) : Option String :=
  match n with
  | 1 => some "SIGHUP" | 2 => some "SIGINT" | 3 => some "SIGQUIT" | 4 => some "SIGILL" | 5 => some "SIGTRAP"
  | 6 => some "SIGABRT" | 7 => some "SIGBUS" | 8 => some "SIGFPE" | 9 => some "SIGKILL" | 10 => some "SIGUSR1"
  | 11 => some "SIGSEGV" | 12 => some "SIGUSR2" | 13 => some "SIGPIPE" | 14 => some "SIGALRM"
  | 15 => some "SIGTERM" | 16 => some "SIGSTKFLT" | 17 => some "SIGCHLD" | 18 => some "SIGCONT"
  | 19 => some "SIGSTOP" | 20 => some "SIGTSTP" | 21 => some "SIGTTIN" | 22 => some "SIGTTOU"
  | 23 => some "SIGURG" | 24 => some "SIGXCPU" | 25 => some "SIGXFSZ" | 26 => some "SIGVTALRM"
  | 27 => some "SIGPROF" | 28 => some "SIGWINCH" | 29 => some "SIGIO" | 30 => some "SIGPWR" | 31 => some "SIGSYS"
  | _ => none

def text : ExitStatus → String
  | .code n => "exit status: " ++ toString n
  | .signal n => "signal: " ++ toString n ++ (signalName n).elim "" fun s => " (" ++ s ++ ")"

end ExitStatus

/-- What comes of a command. -/
inductive CommandOutcome
  | finished (status : ExitStatus) (stderr : List UInt8)
  /-- It could not be run. -/
  | failed (text : String)
  /-- It did not end in time, and was killed. -/
  | late

/-- A program and its arguments. -/
structure Command where
  program : String
  args : List String
  deriving DecidableEq, Repr

/-- Work of a target that runs commands. -/
abbrev CommandWork := Procedure Command (fun _ => CommandOutcome)

/-- The programs of a target: an interpreter, and what it is to run. -/
structure Notifier where
  interpreter : String
  script : String
  deriving DecidableEq, Repr

structure AppriseBackend where
  args : TargetArgs
  notifier : Option Notifier := none
  /-- How long one run may take. -/
  limit : Duration := Duration.ofSeconds 10
  deriving Repr, Inhabited

namespace AppriseBackend

def defaultInterpreter : String := "python"

/-- Reads the template of a connection. -/
def parseConnection (source : String) : Except BackendError Template :=
  match Template.parse source with
  | .ok t => .ok t
  | .error e => .error (.config ("Could not parse connection argument: " ++ e.message))

/-- The programs in the arguments of a target; a connection there must be a template. -/
def readNotifier (args : TargetArgs) : Except BackendError Notifier := do
  let script ← args.required "apprise"
  let interpreter := match args.text? "interpreter" with
    | some i => if i.isEmpty then defaultInterpreter else i
    | none => defaultInterpreter
  if let some source := args.text? "connection" then
    let _ ← parseConnection source
  .ok ⟨interpreter, script⟩

/-- What a lookup of a connection finds: arguments, and nothing of a webhook. -/
def lookup (args : TargetArgs) : Lookup → Option String
  | .arg name => args.text? name
  | .webhook _ => none

/-- What a message is delivered to. -/
def connection (args : TargetArgs) : Except BackendError String := do
  let source ← args.required "connection"
  let template ← parseConnection source
  let text := (args.text? "prefix_destination").getD "" ++ (template.render (lookup args)).text
  if (Text.trim text.toList).isEmpty then .error (.config "connection rendered empty") else .ok text

/-- The command that delivers a message. -/
def command (n : Notifier) (m : Message) (connection : String) : Command :=
  ⟨n.interpreter, [n.script, "-vv", "-t", m.title, "-b", m.message, connection]⟩

/-- The lines of a text, a carriage return at the end of one left out. -/
def lines (s : String) : List String :=
  let pieces := s.splitOn "\n"
  let pieces := if pieces.getLast? = some "" then pieces.dropLast else pieces
  pieces.zipIdx.map fun p =>
    let ended := p.2 + 1 < (s.splitOn "\n").length
    if ended && p.1.endsWith "\r" then String.ofList p.1.toList.dropLast else p.1

/-- The last five lines of what a command wrote. -/
def lastLines (bs : List UInt8) : String :=
  let ls := lines (Text.decodeLossy bs)
  String.intercalate "\n" (ls.drop (ls.length - 5))

/-- What the end of a command means. -/
def conclude (limit : Duration) : CommandOutcome → Except BackendError Unit
  | .late => .error (.timeout limit)
  | .failed text => .error (.io text)
  | .finished (.code 0) _ => .ok ()
  | .finished status stderr =>
    .error (.delivery ("apprise exited with " ++ status.text ++ ": " ++ lastLines stderr))

/-- What a target that runs commands does when asked. -/
def answer (b : AppriseBackend) : BackendCall → CommandWork (Except BackendError Unit × AppriseBackend)
  | .load =>
    match readNotifier b.args with
    | .ok n => .result (.ok (), { b with notifier := some n })
    | .error e => .result (.error e, b)
  | .run | .shutdown => .result (.ok (), b)
  | .execute m args =>
    match b.notifier with
    | none => .result (.error (.notReady "load"), b)
    | some n =>
      match connection args with
      | .error e => .result (.error e, b)
      | .ok c => .ask (command n m c) fun r => .result (conclude b.limit r, b)

end AppriseBackend
end Courier
