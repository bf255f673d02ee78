import Custody.Error
import Custody.Transfer

/-!
# `Custody.Transfer.Signing`: transactions signed where they stand

Signing changes a transaction in place. The digest is taken first, of the fields as they are, and
the signature is put in last, in place of any other, so that what fails before has not touched the
transaction. A private key comes as a key pair or as the text that a session keeps of it.
-/

set_option autoImplicit false

namespace Custody.Transaction

open Transfer

/-- Something done to a transaction. It may fail, and it leaves a transaction in either case. -/
abbrev InPlace (α : Type) := ExceptT WalletError (StateM Transaction) α

namespace InPlace

/-- The answer, and the transaction that is left. -/
def runOn {α : Type} (change : InPlace α) (tx : Transaction) :
    Except WalletError α × Transaction :=
  change tx

/-- The digest of the fields as they are. -/
def digest : InPlace (Block 32) := do
  match (← get).draft.digest with
  | .error e => throw (.fieldLength e)
  | .ok digest => return digest

/-- Puts a signature in, in place of any other. -/
def put (signature : Signature) : InPlace Unit :=
  modify fun tx => { tx with signature := some signature }

/-- Signs with a key pair. -/
def sign (keypair : Keypair) : InPlace Unit := do
  let digest ← digest
  put (keypair.sign digest.bytes)

/-- Signs with a private key in hexadecimal. -/
def signHex (secret : String) : InPlace Unit := do
  let digest ← digest
  match Custody.signHex digest.bytes secret with
  | .error e => throw (.ofSigning e)
  | .ok signature => put signature

end InPlace

end Custody.Transaction
