import Courier.Chat.Stream
import Courier.Json.Value
/-
A chat server that plays by a script: each connection follows the next one, and
the server writes down what it gets on each.
-/

namespace Courier.Rehearsal

open Chat (Call Stanza Arrival Features Failure)
open Json (Value)

/-- How a server treats a connection. -/
structure ChatScript where
  /-- Whether it hangs up before it offers anything. -/
  hangsUp : Bool := false
  offersTls : Bool := true
  /-- The one way of authentication that it offers. -/
  mechanism : String := "PLAIN"
  /-- What it denies the proof of the client with. -/
  denial : Option String := none
  binds : Bool := true
  deriving Inhabited, Repr

/-- What a server gets on a connection. -/
inductive Heard
  | connected
  | proof (mechanism initial : String)
  | binding (resource : Option String)
  | stanza (s : Stanza)
  | ended
  deriving DecidableEq, Repr

structure ChatServer where
  port : Nat
  scripts : List ChatScript := []
  /-- What was heard on each connection, the first one first. -/
  connections : List (List Heard) := []
  /-- How many identifiers were given out. -/
  identifiers : Nat := 0

namespace Heard

/-- What was heard, in its written form. -/
def toValue : Heard → Value
  | .connected => .array [.text "connect"]
  | .proof mechanism initial =>
    .array [.text "auth", .text mechanism, .array ((initial.splitOn "\x00").map .text)]
  | .binding resource => .array [.text "bind", resource.elim .null .text]
  | .stanza (.ping _) => .array [.text "iq", .text "get", .array [.text "ping urn:xmpp:ping"], .bool true]
  | .stanza (.message to_ body) =>
    .array [.text "message", .text "chat", .text to_.text, .null, .array [.array [.text "body", .text body]]]
  | .ended => .array [.text "end"]

end Heard

namespace ChatServer

/-- The place where the server listens. -/
def host : String := "127.0.0.1"

/-- The script of a connection. -/
def script (s : ChatServer) (n : ChatSession) : ChatScript := s.scripts.getD n {}

/-- Writes down what is heard on a connection. -/
def hear (n : ChatSession) (h : Heard) (s : ChatServer) : ChatServer :=
  { s with connections := s.connections.modify n (· ++ [h]) }

/-- What arrives at the client after what was heard last. -/
def reply (s : ChatServer) (n : ChatSession) : List Arrival :=
  match (s.connections.getD n []).getLast? with
  | some (.stanza (.ping id)) => [⟨"iq", some id.text⟩]
  | _ => []

def respond (s : ChatServer) : (c : Call) → c.Answer × ChatServer
  | .dial host port =>
    if host ≠ ChatServer.host ∨ port ≠ s.port then (.error (.io "Connection refused (os error 111)"), s)
    else
      let n : ChatSession := s.connections.length
      let t := { s with connections := s.connections ++ [[.connected]] }
      if (s.script n).hangsUp then (.error .disconnected, t)
      else (.ok (n, { tls := (s.script n).offersTls }), t)
  | .secure n => (.ok { mechanisms := [(s.script n).mechanism] }, s)
  | .authenticate n mechanism initial => (.ok (s.script n).denial, s.hear n (.proof mechanism initial))
  | .bind n resource => (.ok (s.script n).binds, s.hear n (.binding resource))
  | .newIdentifier => (Uuid.ofRandom (s.identifiers + 1), { s with identifiers := s.identifiers + 1 })
  | .send n stanza => (.ok (), s.hear n (.stanza stanza))
  | .receive n => (s.reply n, s)
  | .finish n => (.ok (), s.hear n .ended)

/-- What a target asks of the chat network. -/
def ask (c : ChatCall) : StateM ChatServer c.Answer := (Chat.perform c).run fun q => modifyGet (respond · q)

/-- What was heard on all connections, in its written form. -/
def written (s : ChatServer) : Value := .array (s.connections.map fun c => .array (c.map Heard.toValue))

end ChatServer
end Courier.Rehearsal
