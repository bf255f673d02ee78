import Custody.Transfer.Payload

/-!
# `Custody.Transfer`: transactions

A transaction is a draft whose keys have their lengths, with or without a signature. Signing
replaces whatever signature there was; the digest does not depend on it. What goes to the
ledger is the submission: the same fields with keys and signature as arrays of bytes.
-/

set_option autoImplicit false

namespace Custody

open Transfer

open Json.Value (required? uint8? uint64? list?)

/-- A transfer of funds. -/
structure Transaction where
  sender : PublicKey
  receiver : PublicKey
  nonce : UInt64
  action : Action
  signature : Option Signature
  deriving DecidableEq

/-- The unsigned transaction of a draft. -/
def Transfer.Draft.build (draft : Draft) : Except LengthError Transaction := do
  let sender ← key .sender draft.sender
  let receiver ← key .receiver draft.receiver
  return ⟨⟨sender⟩, ⟨receiver⟩, draft.nonce, draft.action, none⟩

/-- A signed transfer as the ledger takes it. -/
structure Submission where
  sender : Bytes
  receiver : Bytes
  nonce : UInt64
  action : Action
  signature : Bytes
  deriving DecidableEq

namespace Submission

/-- Bytes as a list of numbers. -/
def bytesToJson (bytes : Bytes) : Json.Value := .array (bytes.map fun b => .nat b.toNat)

/-- The submission as it is sent. -/
def toJson (s : Submission) : Json.Value :=
  .ofMembers [("sender", bytesToJson s.sender), ("receiver", bytesToJson s.receiver),
    ("nonce", .nat s.nonce.toNat), ("data", s.action.toJson),
    ("signature", bytesToJson s.signature)]

/-- The submission that was sent, if this is one. -/
def ofJson? (value : Json.Value) : Option Submission :=
  match value.fields? ["sender", "receiver", "nonce", "data", "signature"] with
  | some [sender, receiver, nonce, action, signature] => do
    some ⟨← required? (list? uint8?) sender,
      ← required? (list? uint8?) receiver,
      ← required? uint64? nonce,
      ← required? Action.ofJson? action,
      ← required? (list? uint8?) signature⟩
  | _ => none

/-- The JSON text that goes to the ledger. -/
def text (s : Submission) : String := s.toJson.compact

/-- The submission that a JSON text spells. -/
def ofText? (text : String) : Option Submission := (Json.parse text).bind ofJson?

/-- The fields that are signed, as a draft. -/
def draft (s : Submission) : Draft := ⟨s.sender, s.receiver, s.nonce, s.action⟩

/-- Whether the signature is the sender's. The digest is computed from the submission itself, as a
ledger does that has nothing else. -/
def verifies (s : Submission) : Bool :=
  match s.draft.digest, PublicKey.ofBytes s.sender, Signature.ofBytes s.signature with
  | .ok digest, .ok sender, .ok signature => sender.verify digest.bytes signature
  | _, _, _ => false

end Submission

/-- A public key as a record. -/
def PublicKey.toJson (key : PublicKey) : Json.Value :=
  .ofMembers [("bytes", Submission.bytesToJson key.bytes.bytes)]

/-- The key with these bytes, if there are 32. -/
def PublicKey.ofJson? (value : Json.Value) : Option PublicKey :=
  match value.fields? ["bytes"] with
  | some [bytes] => do
    let bytes ← required? (list? uint8?) bytes
    (Bytes.toBlock? 32 bytes).map PublicKey.mk
  | _ => none

namespace Transaction

/-- The signing payload. -/
def payload (tx : Transaction) : Bytes :=
  layout tx.sender.bytes.bytes tx.receiver.bytes.bytes tx.nonce tx.action

/-- The digest that is signed. -/
def digest (tx : Transaction) : Block 32 := Crypto.Sha256.digest tx.payload

/-- The transaction as a draft again. -/
def draft (tx : Transaction) : Draft :=
  ⟨tx.sender.bytes.bytes, tx.receiver.bytes.bytes, tx.nonce, tx.action⟩

/-- Signs with a key pair. -/
def sign (tx : Transaction) (keypair : Keypair) : Transaction :=
  { tx with signature := some (keypair.sign tx.digest.bytes) }

/-- Signs with a private key in hexadecimal; where that is no private key, nothing is signed. -/
def signHex (tx : Transaction) (secret : String) : Except KeyError Transaction :=
  (Custody.signHex tx.digest.bytes secret).map fun s => { tx with signature := some s }

/-- Whether there is a signature, and it is the sender's. -/
def verifies (tx : Transaction) : Bool :=
  match tx.signature with
  | none => false
  | some signature => tx.sender.verify tx.digest.bytes signature

/-- What goes to the ledger, if the transaction is signed. -/
def toSubmission (tx : Transaction) : Option Submission :=
  tx.signature.map fun signature =>
    ⟨tx.sender.bytes.bytes, tx.receiver.bytes.bytes, tx.nonce, tx.action, signature.bytes.bytes⟩

/-- One line for a reader. -/
def summary (tx : Transaction) : String :=
  tx.sender.toHex ++ " -> " ++ tx.receiver.toHex ++ " nonce=" ++ toString tx.nonce.toNat ++ " "
    ++ tx.action.describe

/-- All fields, keys and signature shortened, for diagnostics. -/
def describe (tx : Transaction) : String :=
  "Transaction \x7b sender: " ++ tx.sender.describe ++ ", receiver: " ++ tx.receiver.describe
    ++ ", nonce: " ++ toString tx.nonce.toNat ++ ", data: " ++ tx.action.tag
    ++ " \x7b amount: " ++ toString tx.action.amount.toNat ++ " \x7d, signature: "
    ++ (match tx.signature with
        | none => "None"
        | some signature => "Some(" ++ signature.describe ++ ")")
    ++ " \x7d"

end Transaction

end Custody
