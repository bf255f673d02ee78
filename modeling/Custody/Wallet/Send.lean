import Custody.Ledger
import Custody.Wallet

/-!
# `Custody.Wallet.Send`: transfers through the ledger

A transfer looks up the account, signs with its nonce and submits. The ledger lives in a monad
of its own, which may be a network or a plain function. While it is being asked, anything may
happen to the wallet's world, so a question takes the world along and gives back the one that it
left: the wallet may have been locked or even replaced between the lookup and the signature.
-/

set_option autoImplicit false

namespace Custody.Wallet

/-- A ledger that can be asked for an account and given a submission. -/
structure Client (m : Type → Type) where
  fetch : String → World → m (Except Ledger.Error Ledger.Account × World)
  submit : Submission → World → m (Except Ledger.Error String × World)

/-- A transfer that the ledger has taken. -/
structure Receipt where
  transaction : Transaction
  response : String
  deriving DecidableEq

/-- What has to hold before the ledger is asked: the wallet is unlocked and the receiver is an
address. Gives the record. -/
def prepare (typed : String) : Command Record := do
  let record ← Keystore.require
  let _ ← unlockedKeypair record
  let _ ← receiver typed
  return record

/-- A signed transfer and what goes to the ledger of it. -/
def signSubmission (typed : String) (amount nonce : UInt64) :
    Command (Transaction × Submission) := do
  let transaction ← signTransfer typed amount nonce
  match transaction.toSubmission with
  | none => .fail (.signing "transaction is unsigned")
  | some submission => return (transaction, submission)

/-- Sends funds. The ledger's errors are passed on as they are. -/
def send {m : Type → Type} [Monad m] (client : Client m) (typed : String) (amount : UInt64)
    (world : World) : m (Except WalletError Receipt × World) :=
  match (prepare typed).runIn world with
  | (.error e, world) => return (.error e, world)
  | (.ok record, world) => do
    match ← client.fetch record.address world with
    | (.error e, world) => return (.error (.ledger e), world)
    | (.ok account, world) =>
      -- The wallet is asked for again: it may have been locked or replaced by now.
      match (signSubmission typed amount account.nonce).runIn world with
      | (.error e, world) => return (.error e, world)
      | (.ok (transaction, submission), world) =>
        match ← client.submit submission world with
        | (.error e, world) => return (.error (.ledger e), world)
        | (.ok response, world) => return (.ok ⟨transaction, response⟩, world)

end Custody.Wallet
