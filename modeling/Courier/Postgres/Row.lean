import Courier.Postgres.Statement
import Courier.Tenant
/-
Tenants from rows. The columns of a row are read from left to right, and the
first one that cannot be read is reported. What is stored as JSON is read as in
a text.
-/

namespace Courier.Postgres

/-- Reads the columns of a row, one after the other. -/
abbrev RowReader := StateT Row (Except Error)

namespace RowReader

/-- The next column. -/
def next : RowReader Cell := fun row =>
  match row with
  | c :: r => .ok (c, r)
  | [] => .ok (.null, [])

/-- A column by its name or number; `read` tells what it holds. -/
def column {α : Type} (shown : String) (read : Cell → Except String α) : RowReader α := do
  match read (← next) with
  | .ok a => return a
  | .error e => throw (.column shown e)

def missing : String := "unexpected null; try decoding as an \x60Option\x60"

def asText : Cell → Except String String
  | .text s => .ok s
  | _ => .error missing

def asFlag : Cell → Except String Bool
  | .flag b => .ok b
  | _ => .error missing

def asTexts : Cell → Except String (List String)
  | .texts items => items.mapM fun
    | some s => .ok s
    | none => .error missing
  | _ => .error missing

def text (name : String) : RowReader String := column (Text.quote name) asText

def flag (name : String) : RowReader Bool := column (Text.quote name) asFlag

def texts (name : String) : RowReader (List String) := column (Text.quote name) asTexts

/-- A text, or nothing. -/
def text? (name : String) : RowReader (Option String) := column (Text.quote name) fun
  | .null => .ok none
  | c => (asText c).map some

/-- A value stored as JSON. -/
def json {α : Type} (name : String) (d : Json.Decoder α) : RowReader α := column (Text.quote name) fun c => do
  d.ofString (← asText c)

/-- Reads a row. -/
def read {α : Type} (r : RowReader α) (row : Row) : Except Error α := (r.run row).map (·.1)

end RowReader

open RowReader

/-- The key of a user, and whether the user is enabled. -/
def userRow : RowReader (String × Bool) := do
  let key ← text "key"
  return (key, ← flag "enable")

/-- An application, or what is wrong with what is stored. -/
def applicationRow : RowReader (Except String Application) := do
  let token ← text "token"
  let enable ← flag "enable"
  let name ← text "name"
  let iconPath ← text? "icon_path"
  let format ← text "format"
  let customFormat ← json "custom_format" CustomFormat.layout
  let encryptionType ← text "encryption_type"
  let encryptionRecipients ← texts "encryption_recipients"
  let encryptTitle ← flag "encrypt_title"
  let encryptMessage ← flag "encrypt_message"
  let encryptAttachment ← flag "encrypt_attachment"
  let target ← text "target"
  let targetArgs ← json "target_args" Json.Layout.table
  return do
    let format ← AppFormat.ofName format
    let encryptionType ← (EncryptionType.ofName encryptionType).mapError EncryptionError.message
    return {
      token, enable, name, iconPath, format, customFormat, encryptionType, encryptionRecipients, encryptTitle,
      encryptMessage, encryptAttachment, target, targetArgs }

def targetRow : RowReader Target := do
  let id ← text "id"
  let enable ← flag "enable"
  let kind ← text "type"
  return { id, enable, kind, args := ← json "args" Json.Layout.table }

/-- The one column of the answer to a greeting. -/
def greetingRow : RowReader String := column "0" asText

end Courier.Postgres
