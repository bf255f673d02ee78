import Custody.Error
import Custody.Time.Timestamp

/-!
# `Custody.Record`: the stored wallet

A record holds the address and the public key of a wallet in the open, and its private key and
recovery phrase sealed under the password. `openKeypair` does not believe the open half: the
key that comes out has to be the one whose public key the record shows. `reseal` changes the
password and nothing else.
-/

set_option autoImplicit false

namespace Custody

open Time
open Json.Value (required? absentOr? text? uint32?)

/-- The version of records that this library writes, and the only one it reads. -/
def recordVersion : UInt32 := 2

/-- A stored wallet. -/
structure Record where
  version : UInt32
  address : String
  publicKey : String
  privateKey : Sealed
  phrase : Option Sealed
  createdAt : Instant
  deriving DecidableEq

namespace Record

/-- The record as it is stored. -/
def toJson (record : Record) : Json.Value :=
  .ofMembers <|
    [("version", .nat record.version.toNat), ("address", .text record.address),
      ("publicKey", .text record.publicKey), ("encryptedPrivateKey", record.privateKey.toJson)]
    -- A record without a phrase has no such member, and not one that is `null`.
    ++ (match record.phrase with
        | none => []
        | some phrase => [("encryptedMnemonic", phrase.toJson)])
    ++ [("createdAt", .text (Timestamp.render record.createdAt))]

/-- An instant in a record. -/
def instant? (value : Json.Value) : Option Instant := value.text?.bind Timestamp.parse?

/-- The record that was stored, if this is one. -/
def ofJson? (value : Json.Value) : Option Record :=
  match value.fields? ["version", "address", "publicKey", "encryptedPrivateKey",
    "encryptedMnemonic", "createdAt"] with
  | some [version, address, publicKey, privateKey, phrase, createdAt] => do
    some ⟨← required? uint32? version, ← required? text? address, ← required? text? publicKey,
      ← required? Sealed.ofJson? privateKey, ← absentOr? Sealed.ofJson? phrase,
      ← required? instant? createdAt⟩
  | _ => none

/-- The JSON text of a record. -/
def text (record : Record) : String := record.toJson.compact

/-- The record of a JSON text. -/
def ofText? (text : String) : Option Record := (Json.parse text).bind ofJson?

/-- The version that a JSON text gives for a record, whatever else it holds. -/
def versionOf? (text : String) : Option UInt32 := do
  match (← Json.parse text).fields? ["version"] with
  | some [version] => required? uint32? version
  | _ => none

/-- Seals the private key and, if there is one, the phrase, in this order. -/
def sealSecrets (keypair : Keypair) (phrase : Option String) (password : String)
    (cost : Kdf.Cost) (tape : Tape) : Except Sealed.Error (Sealed × Option Sealed) × Tape :=
  match Sealed.make password keypair.seed.bytes cost tape with
  | (.error e, tape) => (.error e, tape)
  | (.ok privateKey, tape) =>
    match phrase with
    | none => (.ok (privateKey, none), tape)
    | some phrase =>
      match Sealed.make password (Bytes.ofText phrase) cost tape with
      | (.error e, tape) => (.error e, tape)
      | (.ok phrase, tape) => (.ok (privateKey, some phrase), tape)

/-- The record of a key pair. -/
def make (keypair : Keypair) (phrase : Option String) (password : String) (cost : Kdf.Cost)
    (createdAt : Instant) (tape : Tape) : Except WalletError Record × Tape :=
  match sealSecrets keypair phrase password cost tape with
  | (.error e, tape) => (.error (.ofSealing e), tape)
  | (.ok (privateKey, phrase), tape) =>
    (.ok ⟨recordVersion, keypair.address, keypair.publicKey.toHex, privateKey, phrase, createdAt⟩,
     tape)

/-- The key pair, if the password opens it and it is the one that the record shows. -/
def openKeypair (record : Record) (password : String) : Except WalletError Keypair :=
  match record.privateKey.openWith password with
  | .error e => .error (.ofOpening e)
  | .ok secret =>
    match Keypair.ofBytes secret with
    | .error e => .error (.corruptRecord (.damaged ("private key: " ++ e.message)))
    | .ok keypair =>
      -- Somebody may have put another wallet's identity on the record.
      if keypair.publicKey.toHex = record.publicKey then .ok keypair
      else .error (.corruptRecord (.damaged "private key does not match stored public key"))

/-- The recovery phrase, if there is one and the password opens it. -/
def openPhrase (record : Record) (password : String) : Except WalletError String :=
  match record.phrase with
  | none => .error .noPhrase
  | some sealed =>
    match sealed.openWith password with
    | .error e => .error (.ofOpening e)
    | .ok bytes =>
      match Bytes.toText? bytes with
      | none => .error (.corruptRecord (.damaged "mnemonic is not UTF-8"))
      | some phrase => .ok phrase

/-- Both secrets; a record without a phrase has none to open. -/
def openSecrets (record : Record) (password : String) :
    Except WalletError (Keypair × Option String) :=
  match record.openKeypair password with
  | .error e => .error e
  | .ok keypair =>
    match record.openPhrase password with
    | .ok phrase => .ok (keypair, some phrase)
    | .error .noPhrase => .ok (keypair, none)
    | .error e => .error e

/-- The same secrets under a new password. -/
def reseal (record : Record) (old new : String) (cost : Kdf.Cost) (tape : Tape) :
    Except WalletError Record × Tape :=
  match record.openSecrets old with
  | .error e => (.error e, tape)
  | .ok (keypair, phrase) => make keypair phrase new cost record.createdAt tape

/-- Whether the phrase was kept. -/
def hasPhrase (record : Record) : Bool := record.phrase.isSome

end Record

end Custody
