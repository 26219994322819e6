import Courier.Target.Xmpp
import Courier.Uuid
/-
Streams to a chat server, as a client uses them: it secures the stream, proves
who it is, binds an address, and then sends stanzas. Nothing that tells who the
client is passes over a stream before it is secured.
-/

namespace Courier.Chat

/-- Why a server does not accept a proof of who a client is. -/
inductive Denial
  | aborted | accountDisabled | credentialsExpired | encryptionRequired | incorrectEncoding | invalidAuthzid
  | invalidMechanism | malformedRequest | mechanismTooWeak | notAuthorized | temporaryAuthFailure
  deriving DecidableEq, Repr

namespace Denial

def all : List Denial :=
  [aborted, accountDisabled, credentialsExpired, encryptionRequired, incorrectEncoding, invalidAuthzid,
   invalidMechanism, malformedRequest, mechanismTooWeak, notAuthorized, temporaryAuthFailure]

def words : Denial → List String
  | aborted => ["aborted"]
  | accountDisabled => ["account", "disabled"]
  | credentialsExpired => ["credentials", "expired"]
  | encryptionRequired => ["encryption", "required"]
  | incorrectEncoding => ["incorrect", "encoding"]
  | invalidAuthzid => ["invalid", "authzid"]
  | invalidMechanism => ["invalid", "mechanism"]
  | malformedRequest => ["malformed", "request"]
  | mechanismTooWeak => ["mechanism", "too", "weak"]
  | notAuthorized => ["not", "authorized"]
  | temporaryAuthFailure => ["temporary", "auth", "failure"]

/-- The name by which a server tells it. -/
def name (d : Denial) : String := String.intercalate "-" d.words

/-- The name by which it is reported. -/
def phrase (d : Denial) : String := String.join (d.words.map String.capitalize)

/-- What a server tells; a name that is not known counts as `notAuthorized`. -/
def ofName (s : String) : Denial := (all.find? fun d => d.name == s).getD notAuthorized

end Denial

/-- Why a stream cannot be used. -/
inductive Failure
  | io (reason : String)
  | disconnected
  /-- The server does not offer to secure the stream. -/
  | noTls
  /-- The server offers no way of authentication that a client can take. -/
  | noMechanism
  | denied (d : Denial)
  /-- The server gives no address. -/
  | noBinding
  deriving DecidableEq, Repr

def Failure.message : Failure → String
  | .io reason => "IO error: " ++ reason
  | .disconnected => "disconnected"
  | .noTls => "protocol error: no TLS available"
  | .noMechanism => "authentication error: no matching SASL mechanism available"
  | .denied d => "authentication error: failure from the server: " ++ d.phrase
  | .noBinding => "protocol error: invalid response to resource binding"

/-- What a server offers on a new stream. -/
structure Features where
  tls : Bool := false
  mechanisms : List String := []
  deriving DecidableEq, Repr

/-- What a client sends once it is logged in. -/
inductive Stanza
  | ping (id : Uuid)
  | message (to_ : Address) (body : String)
  deriving DecidableEq, Repr

/-- What a client sees of a stanza that arrives. -/
structure Arrival where
  name : String
  id : Option String
  deriving DecidableEq, Repr

/-- Whether a stanza is the reply to a request. -/
def Arrival.repliesTo (id : Uuid) (a : Arrival) : Bool := a.name == "iq" && a.id == some id.text

/-- What a client does on its streams. -/
inductive Call
  /-- Opens a stream that is not secured. -/
  | dial (host : String) (port : Nat)
  /-- Secures a stream; it begins anew. -/
  | secure (s : ChatSession)
  | authenticate (s : ChatSession) (mechanism initial : String)
  | bind (s : ChatSession) (resource : Option String)
  | newIdentifier
  | send (s : ChatSession) (stanza : Stanza)
  /-- Takes what arrives until nothing more does. -/
  | receive (s : ChatSession)
  | finish (s : ChatSession)

def Call.Answer : Call → Type
  | .dial _ _ => Except Failure (ChatSession × Features)
  | .secure _ => Except Failure Features
  /- What the server tells if it does not accept the proof. -/
  | .authenticate _ _ _ => Except Failure (Option String)
  /- Whether the server gives an address. -/
  | .bind _ _ => Except Failure Bool
  | .newIdentifier => Uuid
  | .send _ _ | .finish _ => Except Failure Unit
  | .receive _ => List Arrival

abbrev Work := Procedure Call Call.Answer

def ask (c : Call) : Work c.Answer := Procedure.query (A := Call.Answer) c

/-- The ways of authentication, the one preferred first, with what a client says to begin. -/
def mechanisms (user password : String) : List (String × String) :=
  [("PLAIN", "\x00" ++ user ++ "\x00" ++ password), ("ANONYMOUS", "")]

/-- Proves who the client is. -/
def authenticate (s : ChatSession) (f : Features) (user password : String) : Work (Except Failure Unit) := do
  match (mechanisms user password).find? fun m => f.mechanisms.contains m.1 with
  | none => return .error .noMechanism
  | some (mechanism, initial) =>
    match ← ask (.authenticate s mechanism initial) with
    | .error e => return .error e
    | .ok (some d) => return .error (.denied (.ofName d))
    | .ok none => return .ok ()

/-- Binds an address to a stream. -/
def bind (s : ChatSession) (resource : Option String) : Work (Except Failure ChatSession) := do
  match ← ask (.bind s resource) with
  | .error e => return .error e
  | .ok given => return if given then .ok s else .error .noBinding

/-- Logs in; gives the stream on which stanzas can be sent. -/
def login (host : String) (port : Nat) (self : Address) (password : String) : Work (Except Failure ChatSession) := do
  match ← ask (.dial host port) with
  | .error e => return .error e
  | .ok (s, features) =>
    if !features.tls then return .error .noTls
    else
      match ← ask (.secure s) with
      | .error e => return .error e
      | .ok features =>
        match ← authenticate s features (self.node.getD "") password with
        | .error e => return .error e
        | .ok () => bind s self.resource

/-- A failure as a target reports it. -/
def lost {α : Type} (r : Except Failure α) : Except BackendError α := r.mapError fun e => .connection e.message

def connect (s : XmppSettings) : Work (Except BackendError ChatSession) :=
  match Address.parse s.jid with
  | .error e => .result (.error (.config ("invalid username: " ++ e.message)))
  | .ok self => do return lost (← login s.host s.port self s.password)

/-- Asks the server for a sign of life. -/
def ping (s : ChatSession) : Work (Except BackendError Unit) := do
  let id : Uuid ← ask .newIdentifier
  match ← ask (.send s (.ping id)) with
  | .error e => return lost (.error e)
  | .ok () =>
    let arrivals : List Arrival ← ask (.receive s)
    return if arrivals.any (Arrival.repliesTo id) then .ok () else .error (.connection "stream closed")

def send (s : ChatSession) (to_ body : String) : Work (Except BackendError Unit) :=
  match Address.parse to_ with
  | .error e => .result (.error (.config ("invalid destination " ++ to_ ++ ": " ++ e.message)))
  | .ok address => do return lost (← ask (.send s (.message address body)))

/-- What a target asks of the chat network, over streams. -/
def perform : (c : ChatCall) → Work c.Answer
  | .connect s => connect s
  | .ping s => ping s
  | .send s to_ body => send s to_ body
  | .close s => do return lost (← ask (.finish s))
  | .reconnecting => .result ()

end Courier.Chat
