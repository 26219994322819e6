import Courier.Encryption
import Courier.Text.Base64
import Courier.Text.Bech32
import Courier.Text.Utf8
import Courier.Crypto.Sha256
import Courier.Crypto.ChaCha
import Courier.Crypto.Curve
/-
Encryption to public keys in the age format, armored as text. A file has a
header with one stanza for each recipient, in which the file's key is wrapped,
and a payload sealed in pieces of 64 KiB.
-/

namespace Courier.Encryption.Age

open Crypto (Octets Sha256.derive)

/-- A recipient is the public point of a key: 32 octets. -/
structure Recipient where
  point : Octets
  deriving DecidableEq, Repr

/-- Reads a recipient. -/
def recipient (s : String) : Except String Recipient :=
  match Text.Bech32.decode? s with
  | none => .error "invalid Bech32 encoding"
  | some (name, octets) =>
    if name ≠ "age".toList then .error "incorrect HRP"
    else if octets.length ≠ 32 then .error "incorrect pubkey length"
    else .ok ⟨octets⟩

/-- Reads the secret scalar of an identity. -/
def identity? (s : String) : Option Octets :=
  match Text.Bech32.decode? s with
  | some (name, octets) => if name = "age-secret-key-".toList ∧ octets.length = 32 then some octets else none
  | none => none

def ascii (s : String) : Octets := Text.encode s

/-- Octets in base64 without padding. -/
def base64 (bs : Octets) : List Char := Text.Base64.encode false bs

/-- Characters in lines of 64, the last of which may be shorter. -/
def wrap (fuel : Nat) (cs : List Char) : List (List Char) :=
  match fuel with
  | 0 => []
  | fuel + 1 => if cs.isEmpty then [] else cs.take 64 :: wrap fuel (cs.drop 64)

def newLine : Octets := [10]

/-! ## Header -/

/-- The purpose of keys that wrap a file's key. -/
def wrapPurpose : Octets := ascii "age-encryption.org/v1/X25519"

/-- The key that wraps a file's key between two points. -/
def wrapKey (secret share point : Octets) : Octets := Sha256.derive secret (share ++ point) wrapPurpose

def zeroNonce : Octets := List.replicate 12 0

/-- The stanza of one recipient: a fresh public point, and the file's key wrapped. -/
def stanza (fileKey ephemeral : Octets) (r : Recipient) : Octets :=
  let share := Crypto.Curve.publicPoint ephemeral
  let secret := Crypto.Curve.multiply ephemeral r.point
  let body := Crypto.ChaCha.close (wrapKey secret share r.point) zeroNonce fileKey
  ascii "-> X25519 " ++ ascii (String.ofList (base64 share)) ++ newLine ++
    ascii (String.ofList (base64 body)) ++ newLine

/-- A header up to the mark that ends it. -/
def headerStart (stanzas : List Octets) : Octets :=
  ascii "age-encryption.org/v1\n" ++ stanzas.flatten ++ ascii "---"

/-- The tag of a header. -/
def headerTag (fileKey start : Octets) : Octets :=
  Crypto.Sha256.keyed (Sha256.derive fileKey [] (ascii "header")) start

/-! ## Payload -/

def pieceSize : Nat := 65536

/-- The nonce of a piece: its number, and whether it is the last one. -/
def pieceNonce (i : Nat) (last : Bool) : Octets := Octets.ofNatBig 11 i ++ [if last then 1 else 0]

/-- The pieces of a text; at least one. -/
def textPieces (bs : Octets) : List Octets :=
  match bs.pieces pieceSize with
  | [] => [[]]
  | ps => ps

/-- A text sealed piece by piece. -/
def closePieces (key : Octets) (bs : Octets) : Octets :=
  let ps := textPieces bs
  (ps.zipIdx.map fun p => Crypto.ChaCha.close key (pieceNonce p.2 (p.2 + 1 == ps.length)) p.1).flatten

/-- Opens what was sealed piece by piece. -/
def openPieces? (key : Octets) (bs : Octets) : Option Octets :=
  let ps := bs.pieces (pieceSize + 16)
  (ps.zipIdx.mapM fun p => Crypto.ChaCha.open? key (pieceNonce p.2 (p.2 + 1 == ps.length)) p.1).map List.flatten

def payloadKey (fileKey nonce : Octets) : Octets := Sha256.derive fileKey nonce (ascii "payload")

/-! ## Armor -/

def armorStart : String := "-----BEGIN AGE ENCRYPTED FILE-----\n"

def armorEnd : String := "-----END AGE ENCRYPTED FILE-----\n"

/-- Octets as text between two marked lines. -/
def wrapArmor (bs : Octets) : String :=
  let cs := Text.Base64.encode true bs
  let lines := (wrap (cs.length + 1) cs).flatMap fun l => l ++ ['\n']
  armorStart ++ String.ofList lines ++ armorEnd

/-- Encrypts a text for recipients. All keys are drawn from a secret seed, the
text and a purpose, so that with a fresh seed none of them is used twice. -/
def armor (seed : Octets) (text : String) (recipients : List Recipient) : String :=
  let bs := ascii text
  let draw (purpose : String) : Octets := Sha256.derive seed (Crypto.Sha256.hash bs) (ascii purpose)
  let fileKey := (draw "file key").take 16
  let nonce := (draw "nonce").take 16
  let start := headerStart (recipients.zipIdx.map fun r => stanza fileKey (draw ("share " ++ toString r.2)) r.1)
  let header := start ++ ascii (String.ofList (' ' :: base64 (headerTag fileKey start))) ++ newLine
  wrapArmor (header ++ nonce ++ closePieces (payloadKey fileKey nonce) bs)

/-- The age format as a way to encrypt. -/
def cipher (seed : Octets) : Cipher where
  Recipient := Recipient
  recipient := recipient
  armor := armor seed

/-! ## Opening -/

/-- The line that octets start with, and what follows it. -/
def line (bs : Octets) : Octets × Octets :=
  let l := bs.takeWhile (· ≠ 10)
  (l, bs.drop (l.length + 1))

/-- What follows a prefix. -/
def after? (start bs : Octets) : Option Octets :=
  if bs.take start.length = start then some (bs.drop start.length) else none

/-- Octets from base64 without padding. -/
def unbase64? (bs : Octets) : Option Octets := do
  let s ← Text.decode? bs
  let padding := String.ofList (List.replicate ((4 - s.length % 4) % 4) '=')
  Text.Base64.decode? (s ++ padding)

/-- The file's key from a stanza, if it is for the identity. -/
def unwrap? (secret share body : Octets) : Option Octets :=
  let point := Crypto.Curve.publicPoint secret
  Crypto.ChaCha.open? (wrapKey (Crypto.Curve.multiply secret share) share point) zeroNonce body

/-- The file's key and the payload, looking through the stanzas of a header. -/
def openHeader? (fuel : Nat) (secret : Octets) (key : Option Octets) (bs : Octets) : Option (Octets × Octets) :=
  match fuel with
  | 0 => none
  | fuel + 1 =>
    let (l, r) := line bs
    match after? (ascii "-> X25519 ") l with
    | some shareText =>
      let (bodyLine, r) := line r
      let found := do unwrap? secret (← unbase64? shareText) (← unbase64? bodyLine)
      openHeader? fuel secret (key <|> found) r
    | none => if (after? (ascii "--- ") l).isSome then key.map fun k => (k, r) else openHeader? fuel secret key r

/-- Opens a file with the secret scalar of an identity. -/
def openFile? (secret bs : Octets) : Option Octets := do
  let (version, r) := line bs
  if version ≠ ascii "age-encryption.org/v1" then none
  else do
    let (fileKey, payload) ← openHeader? r.length secret none r
    openPieces? (payloadKey fileKey (payload.take 16)) (payload.drop 16)

/-- The octets in the base64 lines of an armored text without its marked lines. -/
def unarmor? (body : List Char) : Option Octets := Text.Base64.decode? (String.ofList (body.filter (· ≠ '\n')))

end Courier.Encryption.Age
