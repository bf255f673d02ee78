import Custody.Record
import Custody.World

/-!
# `Custody.Keystore`: the record in the store

The store holds at most one record. Its version is looked at before anything else, so that a
record of another version is named as such whatever its other fields are. Removing the record
removes the session first: a session never outlives its wallet.
-/

set_option autoImplicit false

namespace Custody.Keystore

open Command

/-- The record of a stored text. -/
def decode (text : String) : Except WalletError Record :=
  match Record.versionOf? text with
  | none => .error (.corruptRecord .unreadable)
  | some version =>
    -- What else such a record holds is not looked at.
    if version ≠ recordVersion then .error (.unsupportedVersion version)
    else match Record.ofText? text with
      | none => .error (.corruptRecord .unreadable)
      | some record => .ok record

/-- Stores a record in place of any other. -/
def save (record : Record) : Command Unit := set Store.walletKey record.text

/-- The stored record, if there is one. -/
def load : Command (Option Record) := do
  match ← get Store.walletKey with
  | none => return none
  | some text => return some (← answer (decode text))

/-- The stored record. -/
def require : Command Record := do
  match ← load with
  | none => fail .noWallet
  | some record => return record

/-- Whether anything is stored as a record. -/
def isPresent : Command Bool := do return (← get Store.walletKey).isSome

/-- Removes the session and then the record. -/
def delete : Command Unit := do
  Command.delete Store.sessionKey
  Command.delete Store.walletKey

end Custody.Keystore
