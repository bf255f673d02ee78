import Custody.Main
import Custody.Proofs.Http.Redirect
import Custody.Proofs.Keystore
import Custody.Proofs.Phrase
import Custody.Proofs.Phrase.Fresh
import Custody.Proofs.Phrase.Typed
import Custody.Proofs.Sealed.Opening
import Custody.Proofs.Sealed.RoundTrip
import Custody.Proofs.Stored
import Custody.Proofs.Transfer
import Custody.Proofs.Transfer.Payload
import Custody.Proofs.Transfer.Signing
import Custody.Proofs.Wallet.Course
import Custody.Proofs.Wallet.Crash
import Custody.Proofs.Wallet.Deadline
import Custody.Proofs.Wallet.Identity
import Custody.Proofs.Wallet.NewPassword
import Custody.Proofs.Wallet.Recovery
import Custody.Proofs.Wallet.Refusal
import Custody.Proofs.Wallet.Release
import Custody.Proofs.Wallet.Sender
import Custody.Proofs.Wallet.Status
import Custody.Proofs.Wallet.Ticks
import Custody.Proofs.Wallet.Window
import Custody.Ticker
import Custody.Ticker.Interval
import Custody.Proofs.Address
import Custody.Proofs.Password
import Custody.Proofs.Wallet.Gate
