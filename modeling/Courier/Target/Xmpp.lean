import Courier.Target.Registry
import Courier.Address
/-
Delivery over a chat network. One session is kept for each target. Before every
message the session is probed; if the probe fails, or if the connection is lost
while a message is sent over a session that passed it, the session is opened
anew once and the message sent again.
-/

namespace Courier

/-- What is needed to open a session. -/
structure XmppSettings where
  host : String
  port : Nat
  jid : String
  password : String
  deriving DecidableEq, Repr

namespace XmppSettings

def defaultPort : Nat := 5222

def maxPort : Nat := 65535

/-- What stands before and after the last colon. -/
def splitPort? (cs : List Char) : Option (List Char × List Char) :=
  let port := (cs.reverse.takeWhile (· ≠ ':')).reverse
  if port.length < cs.length then some (cs.take (cs.length - port.length - 1), port) else none

/-- The host and the port of a server. -/
def readServer (server : String) : Except BackendError (String × Nat) :=
  match splitPort? server.toList with
  | none => .ok (server, defaultPort)
  | some (host, port) =>
    match Number.natWithin? maxPort port with
    | none => .error (.config ("invalid port in server: " ++ server))
    | some p => if host.isEmpty then .error (.config ("invalid server: " ++ server)) else .ok (String.ofList host, p)

/-- Checks an address; `what` is what it is the address of. -/
def checkAddress (what address : String) : Except BackendError Unit :=
  match Address.parse address with
  | .ok _ => .ok ()
  | .error e => .error (.config ("invalid " ++ what ++ " " ++ address ++ ": " ++ e.message))

/-- The settings in the arguments of a target. Connections are always encrypted. -/
def ofArgs (args : TargetArgs) : Except BackendError XmppSettings := do
  let server ← args.required "server"
  let (host, port) ← readServer server
  let tls ← args.flag "tls" true
  if !tls then .error (.config "plaintext XMPP connections are not supported")
  else
    let jid ← args.required "username"
    checkAddress "username" jid
    let password ← args.required "password"
    .ok ⟨host, port, jid, password⟩

end XmppSettings

/-- A session that is open, by a number of its own. -/
abbrev ChatSession := Nat

/-- What is asked of the chat network. -/
inductive ChatCall
  | connect (s : XmppSettings)
  | ping (session : ChatSession)
  | send (session : ChatSession) (to_ body : String)
  | close (session : ChatSession)
  /-- Counts that a session is opened anew. -/
  | reconnecting

def ChatCall.Answer : ChatCall → Type
  | .connect _ => Except BackendError ChatSession
  | .ping _ | .send _ _ _ | .close _ => Except BackendError Unit
  | .reconnecting => Unit

/-- A target on the chat network. -/
structure XmppBackend where
  args : TargetArgs
  settings : Option XmppSettings := none
  session : Option ChatSession := none
  /-- How often a session was opened anew for a message. -/
  reconnects : Nat := 0
  deriving Repr, Inhabited

/-- A question to the chat network, and what the target is if no answer ever comes. -/
structure ChatAsk where
  call : ChatCall
  left : XmppBackend

/-- Work of a target on the chat network. -/
abbrev ChatWork := Procedure ChatAsk (fun q => q.call.Answer)

namespace XmppBackend

def isConnected (b : XmppBackend) : Bool := b.session.isSome

/-- Opens a session. -/
def connect (b : XmppBackend) : ChatWork (Except BackendError Unit × XmppBackend) :=
  match b.settings with
  | none => .result (.error (.notReady "load"), b)
  | some s =>
    .ask ⟨.connect s, b⟩ fun
      | .ok session => .result (.ok (), { b with session := some session })
      | .error e => .result (.error e, b)

/-- Closes the session, if there is one, and opens another. -/
def reconnect (b : XmppBackend) : ChatWork (Except BackendError Unit × XmppBackend) :=
  let again (b : XmppBackend) :=
    let b := { b with reconnects := b.reconnects + 1 }
    .ask ⟨.reconnecting, b⟩ fun _ => b.connect
  match b.session with
  | none => again b
  | some stale =>
    let b := { b with session := none }
    .ask ⟨.close stale, b⟩ fun _ => again b

/-- Sends a text over the session. -/
def send (b : XmppBackend) (to_ body : String) : ChatWork (Except BackendError Unit) :=
  match b.session with
  | none => .result (.error (.connection "no XMPP session"))
  | some s => .ask ⟨.send s to_ body, b⟩ .result

/-- Sends over a session that was opened anew. -/
def sendAfterReconnect (b : XmppBackend) (to_ body : String) : ChatWork (Except BackendError Unit × XmppBackend) := do
  match ← b.reconnect with
  | (.error e, b) => return (.error e, b)
  | (.ok (), b) => return (← b.send to_ body, b)

/-- Whether there is a session that passes the probe. -/
def probe (b : XmppBackend) : ChatWork Bool :=
  match b.session with
  | none => .result false
  | some s =>
    .ask ⟨.ping s, b⟩ fun
      | .ok () => .result true
      | .error _ => .result false

/-- Delivers a text to an address that was checked. -/
def deliver (b : XmppBackend) (to_ body : String) : ChatWork (Except BackendError Unit × XmppBackend) := do
  if ← b.probe then
    match ← b.send to_ body with
    | .ok () => return (.ok (), b)
    | .error e => if e.isConnectionLoss then b.sendAfterReconnect to_ body else return (.error e, b)
  else
    match ← b.reconnect with
    | (.error e, b) => return (.error e, b)
    | (.ok (), b) =>
      match ← b.send to_ body with
      | .ok () => return (.ok (), b)
      | .error e => return (.error e, if e.isConnectionLoss then { b with session := none } else b)

/-- The address that a message goes to. -/
def destination (args : TargetArgs) : Except BackendError String := do
  let d ← args.required "destination"
  XmppSettings.checkAddress "destination" d
  .ok d

/-- What a target on the chat network does when asked. -/
def answer (b : XmppBackend) : BackendCall → ChatWork (Except BackendError Unit × XmppBackend)
  | .load =>
    match XmppSettings.ofArgs b.args with
    | .ok s => .result (.ok (), { b with settings := some s })
    | .error e => .result (.error e, b)
  | .run => b.connect
  | .execute m args =>
    match destination args with
    | .error e => .result (.error e, b)
    | .ok to_ => b.deliver to_ m.toText
  | .shutdown =>
    match b.session with
    | none => .result (.ok (), b)
    | some s =>
      let b := { b with session := none }
      .ask ⟨.close s, b⟩ fun r => .result (r, b)

end XmppBackend
end Courier
