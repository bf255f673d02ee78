import Custody.Http.Exchange
import Custody.Json.Parse
import Custody.Wallet.Send

/-!
# `Custody.Http.LedgerProxy`: the ledger over the web

A proxy answers for the ledger at two places below its base address: `/account/…` gives an
account as JSON, and `/transactions` takes a submission and answers in whatever words it likes.
One question is asked once; a redirect is followed as the network has it.
-/

set_option autoImplicit false

namespace Custody.Http

/-- A proxy, by its base address without slashes at the end. -/
structure LedgerProxy where
  base : String
  deriving DecidableEq, Repr

namespace LedgerProxy

/-- The proxy at an address. -/
def ofText (text : String) : LedgerProxy :=
  ⟨String.ofList (text.toList.reverse.dropWhile (· = '/')).reverse⟩

/-- Asks a question at a place below the base address. -/
def ask {m : Type → Type} [Monad m] (proxy : LedgerProxy) (network : Network m) (method : Method)
    (path : String) (body : Option String) : m (Except Failure Response) :=
  match Url.parse (proxy.base ++ path) with
  | .error fault => return .error (.badUrl fault)
  | .ok url => send network ⟨method, url, body⟩

/-- What is said of an answer that cannot be read. -/
def unreadable : Ledger.Error := .invalidResponse "error decoding response body"

/-- What the answer says of the account. -/
def readAccount (response : Response) : Except Ledger.Error Ledger.Account :=
  if response.isSuccess then
    match response.body.bind Json.parse |>.bind Ledger.Account.ofJson? with
    | none => .error unreadable
    | some account => .ok account
  else .error (.rejected response.status (response.body.getD ""))

/-- Looks up the account of an address. -/
def fetch {m : Type → Type} [Monad m] (proxy : LedgerProxy) (network : Network m)
    (address : String) : m (Except Ledger.Error Ledger.Account) := do
  match ← proxy.ask network .get ("/account/" ++ address) none with
  | .error failure => return .error (.unreachable failure.message)
  | .ok response => return readAccount response

/-- What the answer says to the submission. -/
def readVerdict (response : Response) : Except Ledger.Error String :=
  match response.body with
  | none => .error unreadable
  | some body => if response.isSuccess then .ok body else .error (.rejected response.status body)

/-- Hands in a submission. -/
def submit {m : Type → Type} [Monad m] (proxy : LedgerProxy) (network : Network m)
    (submission : Submission) : m (Except Ledger.Error String) := do
  match ← proxy.ask network .post "/transactions" (some submission.text) with
  | .error failure => return .error (.unreachable failure.message)
  | .ok response => return readVerdict response

/-- The proxy as the ledger of a wallet, whose world it leaves alone. -/
def client {m : Type → Type} [Monad m] (proxy : LedgerProxy) (network : Network m) :
    Wallet.Client m where
  fetch := fun address world => do return (← proxy.fetch network address, world)
  submit := fun submission world => do return (← proxy.submit network submission, world)

end LedgerProxy

end Custody.Http
