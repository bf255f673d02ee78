import Custody.Address
import Custody.Ledger
import Custody.Phrase
import Custody.Sealed
import Custody.Transfer.Payload

/-!
# `Custody.Error`: what can go wrong in a wallet

One type for all commands. The errors of the parts are folded into it where they arise; a
reader decides by the constructor what to ask of the user, and `isRecoverable` names those
that another input or an unlock can mend.
-/

set_option autoImplicit false

namespace Custody

/-- A stored value that is not text, or a store that cannot be used, under this key. -/
structure StorageError where
  key : String
  deriving DecidableEq, Repr

/-- What is told of it. -/
def StorageError.message (e : StorageError) : String :=
  "stored value under " ++ e.key ++ " is not valid UTF-8"

/-- What is wrong with a stored record. -/
inductive RecordFault where
  /-- Its text is not the text of a record. -/
  | unreadable
  /-- It is a record that does not hold together. -/
  | damaged (reason : String)
  deriving DecidableEq, Repr

/-- What is told of it. -/
def RecordFault.message : RecordFault → String
  | .unreadable => "not a wallet record"
  | .damaged reason => reason

/-- Everything that a command of the wallet can fail with. -/
inductive WalletError where
  | invalidPhrase (reason : String)
  | invalidPassword
  | noWallet
  | locked
  | fieldLength (e : Transfer.LengthError)
  | signing (reason : String)
  | noPhrase
  | weakPassword (score : UInt8) (feedback : List String)
  | invalidAddress (reason : String)
  | unsupportedVersion (version : UInt32)
  | corruptRecord (fault : RecordFault)
  | sealing (reason : String)
  | storage (e : StorageError)
  | ledger (e : Ledger.Error)
  deriving DecidableEq, Repr

namespace WalletError

/-- The text of the error. -/
def message : WalletError → String
  | .invalidPhrase reason => "invalid mnemonic: " ++ reason
  | .invalidPassword => "invalid password"
  | .noWallet => "no wallet found"
  | .locked => "wallet is locked"
  | .fieldLength e => e.message
  | .signing reason => "signing failed: " ++ reason
  | .noPhrase => "no mnemonic stored for this wallet"
  | .weakPassword score _ => "password too weak (score " ++ toString score.toNat ++ "/4)"
  | .invalidAddress reason => "invalid address: " ++ reason
  | .unsupportedVersion version =>
    "unsupported wallet record version " ++ toString version.toNat
  | .corruptRecord fault => "wallet record is corrupt: " ++ fault.message
  | .sealing reason => "failed to seal wallet secret: " ++ reason
  | .storage e => e.message
  | .ledger e => e.message

/-- Whether another input, or unlocking the wallet, can mend it. -/
def isRecoverable : WalletError → Bool
  | .invalidPhrase _ => true
  | .invalidPassword => true
  | .locked => true
  | .weakPassword _ _ => true
  | .invalidAddress _ => true
  | _ => false

/-- A phrase that was refused. -/
def ofPhrase (fault : Phrase.Fault) : WalletError := .invalidPhrase fault.reason

/-- An address that was refused. -/
def ofAddress : Address.Fault → WalletError
  | .notHex trimmed reason => .invalidAddress (trimmed ++ ": " ++ reason.message)
  | .length actual => .fieldLength ⟨.receiver, 32, actual⟩

/-- A private key that cannot sign. -/
def ofSigning (_ : KeyError) : WalletError := .signing malformedPrivateKey

/-- A secret that could not be sealed. -/
def ofSealing (e : Sealed.Error) : WalletError := .sealing e.message

/-- A secret that could not be opened. A key that does not fit is a wrong password. -/
def ofOpening : Sealed.Error → WalletError
  | .refused => .invalidPassword
  | e => .corruptRecord (.damaged e.message)

end WalletError

end Custody
