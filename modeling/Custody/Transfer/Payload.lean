import Custody.Crypto.Sha256
import Custody.Json.Record
import Custody.Key

/-!
# `Custody.Transfer.Payload`: the bytes that a transfer signs

The payload is the sender's key, the receiver's key, the nonce, the name of the kind of
transfer and the amount, one after the other, numbers in eight bytes from the lowest on. What
is signed is its SHA-256 digest. Keys come in as byte strings of any length; the sender's is
the first to be complained about.
-/

set_option autoImplicit false

namespace Custody.Transfer

open Json.Value (required? uint64?)

/-- A key field of a transfer. -/
inductive Field where
  | sender
  | receiver
  deriving DecidableEq, Repr

/-- The name that errors call it by. -/
def Field.name : Field → String
  | .sender => "sender"
  | .receiver => "receiver"

/-- A field that does not have its length. -/
structure LengthError where
  field : Field
  expected : Nat
  actual : Nat
  deriving DecidableEq, Repr

/-- What is told of it. -/
def LengthError.message (e : LengthError) : String :=
  "invalid length for " ++ e.field.name ++ ": expected " ++ toString e.expected
    ++ " bytes, got " ++ toString e.actual

/-- What a transfer does. -/
inductive Action where
  | nativeTransfer (amount : UInt64)
  deriving DecidableEq, Repr

namespace Action

/-- The name of the kind, as it stands in the payload. -/
def tag : Action → String
  | .nativeTransfer _ => "NativeTransfer"

/-- What is moved. -/
def amount : Action → UInt64
  | .nativeTransfer amount => amount

/-- The kind and its amount. -/
def describe (action : Action) : String :=
  action.tag ++ "(" ++ toString action.amount.toNat ++ ")"

/-- The action as it is sent. -/
def toJson (action : Action) : Json.Value :=
  .ofMembers [(action.tag, .ofMembers [("amount", .nat action.amount.toNat)])]

/-- The action that was sent, if this is one. -/
def ofJson? : Json.Value → Option Action
  | .object [(some "NativeTransfer", value)] =>
    match value.fields? ["amount"] with
    | some [amount] => (required? uint64? amount).map .nativeTransfer
    | _ => none
  | _ => none

end Action

/-- The fields of a transfer before the lengths of its keys have been looked at. Keys are empty
and the nonce is zero until they are set. -/
structure Draft where
  sender : Bytes := []
  receiver : Bytes := []
  nonce : UInt64 := 0
  action : Action
  deriving DecidableEq

/-- The payload of fields that have their lengths. -/
def layout (sender receiver : Bytes) (nonce : UInt64) (action : Action) : Bytes :=
  sender ++ receiver ++ Bytes.ofUInt64LE nonce ++ Bytes.ofText action.tag
    ++ Bytes.ofUInt64LE action.amount

namespace Draft

/-- A key field as a block of 32 bytes. -/
def key (field : Field) (bytes : Bytes) : Except LengthError (Block 32) :=
  match bytes.toBlock? 32 with
  | none => .error ⟨field, 32, bytes.length⟩
  | some block => .ok block

/-- The signing payload. -/
def payload (draft : Draft) : Except LengthError Bytes := do
  let sender ← key .sender draft.sender
  let receiver ← key .receiver draft.receiver
  return layout sender.bytes receiver.bytes draft.nonce draft.action

/-- The digest that is signed. -/
def digest (draft : Draft) : Except LengthError (Block 32) :=
  draft.payload.map Crypto.Sha256.digest

end Draft

end Custody.Transfer
