import Custody.Json.Record

/-!
# `Custody.Ledger`: what the ledger says

The ledger keeps accounts and takes submissions. Nothing is ever retried: what went wrong is
passed on as it came.
-/

set_option autoImplicit false

namespace Custody.Ledger

open Json.Value (required? uint64?)

/-- An account: its funds and the nonce of its next transfer. -/
structure Account where
  balance : UInt64
  nonce : UInt64
  deriving DecidableEq, Repr

namespace Account

/-- The account as a ledger tells it. -/
def toJson (account : Account) : Json.Value :=
  .ofMembers [("balance", .nat account.balance.toNat), ("nonce", .nat account.nonce.toNat)]

/-- The account that a ledger has told, if this is one. -/
def ofJson? (value : Json.Value) : Option Account :=
  match value.fields? ["balance", "nonce"] with
  | some [balance, nonce] => do
    some ⟨← required? uint64? balance, ← required? uint64? nonce⟩
  | _ => none

end Account

/-- Why the ledger gave no answer that counts. -/
inductive Error where
  /-- There was no answer. -/
  | unreachable (reason : String)
  /-- The answer was a refusal. -/
  | rejected (status : Nat) (body : String)
  /-- The answer made no sense. -/
  | invalidResponse (reason : String)
  deriving DecidableEq, Repr

/-- What is told of it. -/
def Error.message : Error → String
  | .unreachable reason => "ledger unreachable: " ++ reason
  | .rejected status body =>
    "ledger rejected request (status " ++ toString status ++ "): " ++ body
  | .invalidResponse reason => "unexpected ledger response: " ++ reason

end Custody.Ledger
