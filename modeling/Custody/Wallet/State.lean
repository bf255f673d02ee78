import Custody.Json.Record
import Custody.Text.Quoted

/-!
# `Custody.Wallet.State`: the state that a wallet shows

A wallet is absent, locked or unlocked. What is shown of a state never includes the private
key.
-/

set_option autoImplicit false

namespace Custody.Wallet

/-- The state of a wallet. -/
inductive State where
  | absent
  | locked (address publicKey : String)
  | unlocked (address publicKey privateKey : String)
  deriving DecidableEq, Repr

namespace State

/-- Whether there is a key at hand. -/
def isUnlocked : State → Bool
  | .unlocked _ _ _ => true
  | _ => false

/-- Whether there is a record. -/
def hasWallet : State → Bool
  | .absent => false
  | _ => true

/-- The address that is shown, if there is a record. -/
def address? : State → Option String
  | .absent => none
  | .locked address _ => some address
  | .unlocked address _ _ => some address

/-- The public key that is shown, if there is a record. -/
def publicKey? : State → Option String
  | .absent => none
  | .locked _ publicKey => some publicKey
  | .unlocked _ publicKey _ => some publicKey

/-- The secret key, while the wallet is unlocked. -/
def privateKey? : State → Option String
  | .unlocked _ _ privateKey => some privateKey
  | _ => none

/-- The name of the state. -/
def label : State → String
  | .absent => "no-wallet"
  | .locked _ _ => "locked"
  | .unlocked _ _ _ => "unlocked"

/-- The state in short: its name and the address, if there is one. -/
def toJson (state : State) : Json.Value :=
  .ofMembers <| ("state", .text state.label) ::
    (match state.address? with
      | none => []
      | some address => [("address", .text address)])

/-- The state for diagnostics. -/
def describe : State → String
  | .absent => "NoWallet"
  | .locked address _ => "Locked \x7b address: " ++ Text.quote address ++ " \x7d"
  | .unlocked address _ _ =>
    "Unlocked \x7b address: " ++ Text.quote address ++ ", private_key: \"<redacted>\" \x7d"

end State

end Custody.Wallet
