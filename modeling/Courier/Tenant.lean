import Courier.Encryption
import Courier.Extraction
/-
Tenants: users, their applications, and the targets that applications deliver
to. An application may hold arguments for its target, as one flat map or as one
map for each target.
-/

namespace Courier

open Json (Value Object Layout Field)

/-- How the application route reads the bodies of requests. -/
inductive AppFormat
  | pushover
  | custom
  deriving DecidableEq, Repr, Inhabited

namespace AppFormat

def name : AppFormat → String
  | .pushover => "pushover"
  | .custom => "custom"

/-- The format of a name in letters of any case, or what is wrong with it. -/
def ofName (name : String) : Except String AppFormat :=
  let n := Text.lower name
  if n = "" ∨ n = "pushover" then .ok .pushover
  else if n = "custom" then .ok .custom
  else .error ("unknown application format: " ++ n)

def layout {D : Type → Type} [Layout D] : D AppFormat :=
  Layout.choice "AppFormat" [("pushover", .pushover), ("custom", .custom)]

end AppFormat

/-- Arguments of a target. -/
abbrev TargetArgs := Object

structure Application where
  token : String
  enable : Bool := true
  name : String := ""
  iconPath : Option String := none
  format : AppFormat := .pushover
  customFormat : CustomFormat := {}
  encryptionType : EncryptionType := .none
  encryptionRecipients : List String := []
  encryptTitle : Bool := false
  encryptMessage : Bool := false
  encryptAttachment : Bool := false
  /-- The id of the target. -/
  target : String
  targetArgs : TargetArgs := []
  deriving Repr, Inhabited

structure User where
  key : String
  enable : Bool := true
  applications : List Application := []
  deriving Repr, Inhabited

structure Target where
  id : String
  enable : Bool := true
  /-- The name of the kind of target. -/
  kind : String
  args : TargetArgs := []
  deriving Repr, Inhabited

namespace Application

/-- What the application encrypts. -/
def encryptionPolicy (a : Application) : EncryptionPolicy where
  kind := a.encryptionType
  recipients := a.encryptionRecipients
  title := a.encryptTitle
  message := a.encryptMessage
  attachment := a.encryptAttachment

def layout {D : Type → Type} [Layout D] : D Application :=
  Layout.record "Application" { token := "", target := "" }
    [.required "token" Layout.text fun v a => { a with token := v },
     .optional "enable" Layout.flag fun v a => { a with enable := v },
     .optional "name" Layout.text fun v a => { a with name := v },
     .optional "icon_path" (Layout.optional Layout.text) fun v a => { a with iconPath := v },
     .optional "format" AppFormat.layout fun v a => { a with format := v },
     .optional "custom_format" CustomFormat.layout fun v a => { a with customFormat := v },
     .optional "encryption_type" EncryptionType.layout fun v a => { a with encryptionType := v },
     .optional "encryption_recipients" (Layout.list Layout.text) fun v a => { a with encryptionRecipients := v },
     .optional "encrypt_title" Layout.flag fun v a => { a with encryptTitle := v },
     .optional "encrypt_message" Layout.flag fun v a => { a with encryptMessage := v },
     .optional "encrypt_attachment" Layout.flag fun v a => { a with encryptAttachment := v },
     .required "target" Layout.text fun v a => { a with target := v },
     .optional "target_args" Layout.table fun v a => { a with targetArgs := v }]

def toValue (a : Application) : Value :=
  .object
    [("token", .text a.token), ("enable", .bool a.enable), ("name", .text a.name),
     ("icon_path", a.iconPath.elim .null .text), ("format", .text a.format.name),
     ("custom_format", a.customFormat.toValue), ("encryption_type", .text a.encryptionType.name),
     ("encryption_recipients", .array (a.encryptionRecipients.map .text)),
     ("encrypt_title", .bool a.encryptTitle), ("encrypt_message", .bool a.encryptMessage),
     ("encrypt_attachment", .bool a.encryptAttachment), ("target", .text a.target),
     ("target_args", .object a.targetArgs)]

end Application

namespace User

/-- The first application of the user with a token. -/
def application? (u : User) (token : String) : Option Application :=
  u.applications.find? fun a => a.token == token

def layout {D : Type → Type} [Layout D] : D User :=
  Layout.record "User" { key := "" }
    [.required "key" Layout.text fun v u => { u with key := v },
     .optional "enable" Layout.flag fun v u => { u with enable := v },
     .optional "applications" (Layout.list Application.layout) fun v u => { u with applications := v }]

def toValue (u : User) : Value :=
  .object
    [("key", .text u.key), ("enable", .bool u.enable),
     ("applications", .array (u.applications.map Application.toValue))]

end User

namespace Target

def layout {D : Type → Type} [Layout D] : D Target :=
  Layout.record "Target" { id := "", kind := "" }
    [.required "id" Layout.text fun v t => { t with id := v },
     .optional "enable" Layout.flag fun v t => { t with enable := v },
     .required "type" Layout.text fun v t => { t with kind := v },
     .optional "args" Layout.table fun v t => { t with args := v }]

def toValue (t : Target) : Value :=
  .object [("id", .text t.id), ("enable", .bool t.enable), ("type", .text t.kind), ("args", .object t.args)]

/-- The arguments that an application gives for a target: the map under the
target's id if there is one, and else all of them. -/
def argsFor (t : Target) (appArgs : TargetArgs) : TargetArgs :=
  match Object.get? appArgs t.id with
  | some (.object own) => own
  | _ => appArgs

/-- The arguments of a target with those of an application over them. -/
def mergeArgs (t : Target) (appArgs : TargetArgs) : TargetArgs := Object.overlay t.args (t.argsFor appArgs)

end Target
end Courier
