import Custody.Keystore
import Custody.Password
import Custody.Session
import Custody.Transfer
import Custody.Wallet.State

/-!
# `Custody.Wallet`: the commands of a wallet

Every command reads the record first and settles everything that can be refused before it
writes. `install`, which puts a new wallet in place, removes the old session before it stores
the new record and starts the new session last, so that a session in the store is never one of
a wallet that is not. `unlockedKeypair` holds the session to the same rule when it is used: a
live session whose key is not the record's is removed, and the wallet is locked.
-/

set_option autoImplicit false

namespace Custody

open Time Command

/-- How a wallet is set up. -/
structure Settings where
  session : Span
  cost : Kdf.Cost
  deriving DecidableEq

namespace Settings

/-- Sessions of half an hour, and the standard cost. -/
def standard : Settings := ⟨.ofSeconds 1800, .standard⟩

end Settings

namespace Wallet

/-- What is told of a wallet. -/
structure Summary where
  address : String
  publicKey : String
  deriving DecidableEq, Repr

namespace Summary

/-- What a record shows. -/
def ofRecord (record : Record) : Summary := ⟨record.address, record.publicKey⟩

/-- The summary as it is printed. -/
def toJson (summary : Summary) : Json.Value :=
  .ofMembers [("address", .text summary.address), ("publicKey", .text summary.publicKey)]

end Summary

/-- A new wallet and the phrase that restores it. -/
structure Created where
  summary : Summary
  phrase : String
  deriving DecidableEq, Repr

/-- The new wallet without its phrase, for diagnostics. -/
def Created.describe (created : Created) : String :=
  "CreatedWallet \x7b summary: WalletSummary \x7b address: " ++ Text.quote created.summary.address
    ++ ", public_key: " ++ Text.quote created.summary.publicKey
    ++ " \x7d, mnemonic: \"<redacted>\" \x7d"

/-- Bytes of entropy of a new phrase. -/
def entropyLength : Nat := 16

/-- A phrase of fresh entropy. -/
def newPhrase : Command Phrase := onTape fun tape =>
  let (entropy, tape) := tape.draw entropyLength
  (.ok (Phrase.ofEntropy entropy), tape)

/-- Puts a wallet in place of any other and unlocks it. -/
def install (settings : Settings) (keypair : Keypair) (phrase password : String) :
    Command Record := do
  let createdAt ← now
  let record ← onTape (Record.make keypair (some phrase) password settings.cost createdAt)
  -- What can be refused is behind us. The three writes come in this order, so that no
  -- session is ever left without its record.
  Session.finish
  Keystore.save record
  let _ ← Session.start settings.session keypair.secretHex
  return record

/-- Refuses an empty password. -/
def requireNonempty (password : String) : Command Unit :=
  if password.isEmpty then fail (.weakPassword 0 [Password.emptyAdvice]) else return ()

/-- Makes a new wallet. The password has to be strong. -/
def create (settings : Settings) (password : String) : Command Created := do
  let strength := Password.strength password
  if strength.isStrong then
    let phrase ← newPhrase
    let record ← install settings phrase.keypair phrase.text password
    return ⟨.ofRecord record, phrase.text⟩
  else fail (.weakPassword strength.score strength.feedback)

/-- Restores a wallet from its phrase. -/
def restore (settings : Settings) (typed password : String) : Command Summary := do
  requireNonempty password
  match Phrase.parse typed with
  | .error fault => fail (.ofPhrase fault)
  | .ok phrase =>
    let record ← install settings phrase.keypair phrase.text password
    return .ofRecord record

/-- Unlocks the wallet. -/
def unlock (settings : Settings) (password : String) : Command Summary := do
  let record ← Keystore.require
  let keypair ← answer (record.openKeypair password)
  let _ ← Session.start settings.session keypair.secretHex
  return .ofRecord record

/-- Locks the wallet. -/
def lock : Command Unit := Session.finish

/-- Forgets the wallet. -/
def delete : Command Unit := Keystore.delete

/-- Seals the wallet under another password. -/
def changePassword (settings : Settings) (old new : String) : Command Unit := do
  requireNonempty new
  let record ← Keystore.require
  let resealed ← onTape (record.reseal old new settings.cost)
  Keystore.save resealed

/-- The key pair of the live session, if it is the record's. -/
def unlockedKeypair (record : Record) : Command Keypair := do
  let secret ← Session.secret
  match Keypair.ofHex secret with
  | .ok keypair =>
    if keypair.publicKey.toHex = record.publicKey then return keypair
    else
      Session.finish
      fail .locked
  | .error _ =>
    Session.finish
    fail .locked

/-- The recovery phrase of an unlocked wallet. -/
def exportPhrase (password : String) : Command String := do
  let record ← Keystore.require
  -- The password alone is not enough: the wallet has to be unlocked as well.
  let _ ← unlockedKeypair record
  answer (record.openPhrase password)

/-- The private key of an unlocked wallet in hexadecimal. -/
def exportKey (password : String) : Command String := do
  let record ← Keystore.require
  let _ ← unlockedKeypair record
  let keypair ← answer (record.openKeypair password)
  return keypair.secretHex

/-- The receiver that a typed address names. -/
def receiver (typed : String) : Command PublicKey :=
  match Address.parse typed with
  | .error fault => fail (.ofAddress fault)
  | .ok key => return key

/-- A signed transfer from an unlocked wallet. It is checked before it is given out. -/
def signTransfer (typed : String) (amount nonce : UInt64) : Command Transaction := do
  let record ← Keystore.require
  let keypair ← unlockedKeypair record
  let payee ← receiver typed
  let tx : Transaction := ⟨keypair.publicKey, payee, nonce, .nativeTransfer amount, none⟩
  let tx := tx.sign keypair
  if tx.verifies then return tx
  else fail (.signing "signature does not verify against sender")

/-- The state of the wallet. A live session that is not the wallet's is removed. -/
def state : Command State := do
  match ← Keystore.load with
  | none =>
    -- A session without a record has nothing to unlock.
    if (← Session.live).isSome then Session.finish
    return .absent
  | some record =>
    match ← Session.live with
    | none => return .locked record.address record.publicKey
    | some session =>
      match Keypair.ofHex session.privateKey with
      | .ok keypair =>
        if keypair.publicKey.toHex = record.publicKey then
          return .unlocked record.address record.publicKey session.privateKey
        else
          Session.finish
          return .locked record.address record.publicKey
      | .error _ =>
        Session.finish
        return .locked record.address record.publicKey

/-- Whether the wallet is unlocked. -/
def isUnlocked : Command Bool := Session.isUnlocked

/-- When the wallet will lock itself. -/
def expiresAt : Command (Option Instant) := Session.deadline

/-- Puts off the time at which the wallet locks itself; says whether it was unlocked. -/
def touch (settings : Settings) : Command Bool := Session.refresh settings.session

end Wallet

end Custody
