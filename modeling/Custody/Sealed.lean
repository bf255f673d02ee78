import Custody.Crypto.Gcm
import Custody.Kdf
import Custody.Tape
import Custody.Text.Hex

/-!
# `Custody.Sealed`: secrets sealed under a password

A sealed secret is a nonce, a ciphertext and a tag, together with the salt and the cost of the
key that made them. Opening tells three kinds of failure apart: the form is damaged, the key
cannot be derived, or the key does not fit. A wrong password and an altered ciphertext look the
same.
-/

set_option autoImplicit false

namespace Custody

open Json.Value (required? text?)

/-- Bytes of a nonce. -/
def nonceLength : Nat := 12

/-- Encrypts under a key; the nonce comes first in the result. -/
def encryptWith (key : Block 32) (nonce : Block 12) (plaintext : Bytes) : Bytes :=
  nonce.bytes ++ Crypto.Gcm.encrypt key nonce plaintext

/-- Why a ciphertext was not decrypted. -/
inductive DecryptError where
  | tooShort
  | refused
  deriving DecidableEq, Repr

/-- Decrypts what `encryptWith` gave. -/
def decryptWith (key : Block 32) (data : Bytes) : Except DecryptError Bytes :=
  if data.length < nonceLength then .error .tooShort
  else match Crypto.Gcm.decrypt? key (Bytes.toBlock 12 data) (data.drop nonceLength) with
    | none => .error .refused
    | some plaintext => .ok plaintext

/-- A secret sealed under a password, as it is stored. -/
structure Sealed where
  cost : Kdf.Cost
  salt : String
  ciphertext : String
  deriving DecidableEq, Repr

namespace Sealed

/-- Why a sealed secret was not opened, or not made. -/
inductive Error where
  /-- The stored form is damaged. -/
  | malformed (reason : String)
  | kdf (error : Kdf.Error)
  | tooShort
  /-- The key does not fit. -/
  | refused
  deriving DecidableEq, Repr

/-- What is told of it. -/
def Error.message : Error → String
  | .malformed reason => "sealed secret is malformed: " ++ reason
  | .kdf error => error.message
  | .tooShort => "ciphertext too short: must be at least 12 bytes"
  | .refused => "decryption failed -- wrong password or corrupted ciphertext"

/-- Why nothing was opened, from why nothing was decrypted. -/
def Error.ofDecrypt : DecryptError → Error
  | .tooShort => .tooShort
  | .refused => .refused

/-- The sealed text as it is stored. -/
def toJson (sealed : Sealed) : Json.Value :=
  .ofMembers [("kdf", sealed.cost.toJson), ("salt", .text sealed.salt),
    ("ciphertext", .text sealed.ciphertext)]

/-- The sealed text that was stored, if this is one. -/
def ofJson? (value : Json.Value) : Option Sealed :=
  match value.fields? ["kdf", "salt", "ciphertext"] with
  | some [cost, salt, ciphertext] => do
    some ⟨← required? Kdf.Cost.ofJson? cost, ← required? text? salt,
      ← required? text? ciphertext⟩
  | _ => none

/-- The secret sealed under a password. The salt is drawn first, and the nonce only once the
key has been derived. -/
def make (password : String) (plaintext : Bytes) (cost : Kdf.Cost) (tape : Tape) :
    Except Error Sealed × Tape :=
  let (salt, tape) := tape.draw Kdf.saltLength
  match Kdf.deriveKey password salt cost with
  | .error e => (.error (.kdf e), tape)
  | .ok key =>
    -- A cost that is refused has used up the salt, but no nonce.
    let (nonce, tape) := tape.drawBlock nonceLength
    (.ok ⟨cost, Text.Hex.encode salt, Text.Hex.encode (encryptWith key nonce plaintext)⟩, tape)

/-- The bytes that a field holds in hexadecimal. -/
def field (text : String) : Except Error Bytes :=
  match Text.Hex.decode text with
  | .error e => .error (.malformed e.message)
  | .ok bytes => .ok bytes

/-- What a password opens, with a password hash that may live in a monad of its own. -/
def openBy {m : Type → Type} [Monad m] (hash : Kdf.Hash m) (password : String)
    (sealed : Sealed) : m (Except Error Bytes) :=
  match field sealed.salt with
  | .error e => return .error e
  | .ok salt =>
    if salt.length ≠ Kdf.saltLength then
      return .error (.malformed ("salt is " ++ toString salt.length ++ " bytes"))
    else match field sealed.ciphertext with
      | .error e => return .error e
      | .ok data => do
        match ← Kdf.deriveKeyBy hash password salt sealed.cost with
        | .error e => return .error (.kdf e)
        | .ok key =>
          match decryptWith key data with
          | .error e => return .error (.ofDecrypt e)
          | .ok plaintext => return .ok plaintext

/-- The secret, if the password is the one it was sealed under. -/
def openWith (password : String) (sealed : Sealed) : Except Error Bytes :=
  openBy (m := Id) Kdf.argon2id password sealed

end Sealed

end Custody
