import Courier.Encryption.Age
import Courier.Json.Value
/-
Encrypted text shown to those who hold keys: every armored piece is replaced
by a mark for each key, 1 if it opens the piece and 0 if not, and what the
piece holds.
-/

namespace Courier.Encryption.Age

open Crypto (Octets)
open Json (Value)

/-- What one armored piece holds, and which keys open it. -/
def discloseBody (secrets : List Octets) (body : List Char) : String :=
  let file := (unarmor? body).getD []
  let opened := secrets.map fun s => openFile? s file
  let marks := opened.map fun o => if o.isSome then '1' else '0'
  "<age:[" ++ String.ofList marks ++ "]:" ++ ((opened.findSome? id).map Text.decodeLossy).getD "" ++ ">"

/-- A text with every armored piece replaced. -/
def disclose (secrets : List Octets) (s : String) : String :=
  match s.splitOn armorStart with
  | [] => s
  | first :: pieces =>
    String.join (first :: pieces.map fun p =>
      match p.splitOn armorEnd with
      | body :: r :: rs => discloseBody secrets body.toList ++ String.intercalate armorEnd (r :: rs)
      | _ => armorStart ++ p)

mutual

/-- A value with every armored piece in its texts replaced. -/
def discloseValue (secrets : List Octets) : Value → Value
  | .text s => .text (disclose secrets s)
  | .array xs => .array (discloseElements secrets xs)
  | .object ms => .object (discloseMembers secrets ms)
  | v => v

def discloseElements (secrets : List Octets) : List Value → List Value
  | [] => []
  | v :: r => discloseValue secrets v :: discloseElements secrets r

def discloseMembers (secrets : List Octets) : List (String × Value) → List (String × Value)
  | [] => []
  | (k, v) :: r => (k, discloseValue secrets v) :: discloseMembers secrets r

end

end Courier.Encryption.Age
