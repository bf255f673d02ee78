import Custody.Cli.Disk
import Custody.Cli.Output
import Custody.Http.LedgerProxy

/-!
# `Custody.Cli.Run`: what each command does

A command opens the wallet of its data directory, does one thing with it and prints what came
of it. Sessions stay in the store, so a wallet that one run has unlocked is unlocked for the
next one. Scoring a password, the version and a deletion that was not confirmed do not open
anything.
-/

set_option autoImplicit false

namespace Custody.Cli

open Time

/-- Something done with a wallet open, in the monad of the network. -/
abbrev Step (m : Type → Type) := World → m (Output × World)

namespace Step

/-- Runs a command and prints its answer. -/
def ofCommand {α : Type} {m : Type → Type} [Monad m] (failure : WalletError → Failure)
    (command : Command α) (lines : α → List String) : Step m := fun world =>
  match command.runIn world with
  | (.ok a, world) => return (.ofLines (lines a), world)
  | (.error e, world) => return (.ofFailure (failure e), world)

/-- Goes on after a step that did not fail, and prints more. -/
def andThen {m : Type → Type} [Monad m] (first next : Step m) : Step m := fun world => do
  match ← first world with
  | (⟨lines, .done⟩, world) =>
    let (output, world) ← next world
    return ({ output with lines := lines ++ output.lines }, world)
  | failed => return failed

end Step

/-- The settings of a run. Sessions are counted in minutes. -/
def Invocation.settings (invocation : Invocation) : Settings :=
  { Settings.standard with
    session := .ofSeconds (min (invocation.sessionMinutes.toNat * 60) (UInt64.size - 1)) }

/-- Prints when the session expires, unless as JSON. -/
def printExpiry {m : Type → Type} [Monad m] (json : Bool) : Step m :=
  .ofCommand .plain Wallet.expiresAt fun expiresAt =>
    if json then [] else (expiresAt.map fun t => "  " ++ expiryLine t).toList

/-- Sends a transfer and prints what came of it. -/
def sendStep {m : Type → Type} [Monad m] (network : Http.Network m) (json : Bool) (payee : String)
    (amount : UInt64) (ledgerUrl : String) : Step m := fun world => do
  let ledger := (Http.LedgerProxy.ofText ledgerUrl).client network
  match ← Wallet.send ledger payee amount world with
  | (.ok receipt, world) =>
    return (.ofLines (transactionOutput json receipt.transaction (some receipt.response)), world)
  | (.error e, world) =>
    return (.ofFailure (.during ("failed to send transfer via " ++ ledgerUrl) e), world)

/-- What a command comes to: output as it is, or a step with the wallet open. -/
inductive Task (m : Type → Type) where
  | print (output : Output)
  | onWallet (step : Step m)

/-- What a command does. -/
def Subcommand.task {m : Type → Type} [Monad m] (network : Http.Network m) (settings : Settings)
    (json : Bool) : Subcommand → Task m
  | .create password =>
    .onWallet <| .ofCommand (.during "failed to create wallet") (Wallet.create settings password)
      (createdOutput json)
  | .restore phrase password =>
    .onWallet <| .ofCommand (.during "failed to import wallet")
      (Wallet.restore settings phrase password) (summaryOutput json "Wallet imported.")
  | .unlock password =>
    .onWallet <| .andThen
      (.ofCommand (.during "failed to unlock wallet") (Wallet.unlock settings password)
        (summaryOutput json "Wallet unlocked."))
      (printExpiry json)
  | .lock =>
    .onWallet <| .ofCommand .plain Wallet.lock fun _ => if json then [] else ["Wallet locked."]
  | .status =>
    .onWallet <| .ofCommand .plain (do return (← Wallet.state, ← Wallet.expiresAt))
      fun (state, expiresAt) => stateOutput json state expiresAt
  | .delete false => .print (.ofFailure ⟨"refusing to delete the wallet without --yes", []⟩)
  | .delete true =>
    .onWallet <| .ofCommand (.during "failed to delete wallet") Wallet.delete fun _ =>
      if json then [] else ["Wallet deleted."]
  | .changePassword old new =>
    .onWallet <| .ofCommand (.during "failed to change password")
      (Wallet.changePassword settings old new) fun _ => if json then [] else ["Password changed."]
  | .exportPhrase password =>
    .onWallet <| .ofCommand .plain (Wallet.exportPhrase password) fun phrase => [phrase]
  | .exportKey password =>
    .onWallet <| .ofCommand .plain (Wallet.exportKey password) fun key => [key]
  | .sign payee amount nonce =>
    .onWallet <| .ofCommand (.during "failed to sign transaction")
      (Wallet.signTransfer payee amount nonce) fun tx => transactionOutput json tx none
  | .send payee amount ledgerUrl => .onWallet (sendStep network json payee amount ledgerUrl)
  | .checkPassword password => .print (.ofLines [(Password.strength password).toJson.pretty])
  | .version => .print (.ofLines versionLines)

/-- What an invocation does. -/
def Invocation.task {m : Type → Type} [Monad m] (invocation : Invocation)
    (network : Http.Network m) : Task m :=
  invocation.command.task network invocation.settings invocation.json

/-- What is printed where the data directory cannot be made. -/
def Invocation.noDirectory (invocation : Invocation) (reason : String) : Output :=
  .ofFailure ⟨"failed to create data directory: " ++ invocation.dataDir, [reason]⟩

/-- What is printed where the store cannot be opened. -/
def Invocation.noStore (invocation : Invocation) (reason : String) : Output :=
  -- The reason is told twice, by the store and by what it rests on.
  let cause := "IO error: " ++ reason
  .ofFailure ⟨"failed to open wallet database at " ++ Store.pathIn invocation.dataDir,
    ["sled error: " ++ cause, cause]⟩

/-- Makes the data directory and opens the store in it; or says why that cannot be done. -/
def Invocation.openStore (invocation : Invocation) (disk : Disk) :
    Except Output (Place × Store) × Disk :=
  match disk.perform (Disk.makeDirectory invocation.dataDir) with
  | (.error e, disk) => (.error (invocation.noDirectory e.message), disk)
  | (.ok place, disk) =>
    match disk.perform (Disk.openStore invocation.dataDir place) with
    | (.error e, disk) => (.error (invocation.noStore e.message), disk)
    | (.ok none, disk) => (.error .brokenOff, disk)
    | (.ok (some store), disk) => (.ok (place, store), disk)

/-- Runs an invocation. -/
def Invocation.run {m : Type → Type} [Monad m] (invocation : Invocation)
    (network : Http.Network m) (now : Instant) (tape : Tape) (disk : Disk) : m (Output × Disk) :=
  match invocation.task network with
  | .print output => return (output, disk)
  | .onWallet step =>
    match invocation.openStore disk with
    | (.error output, disk) => return (output, disk)
    | (.ok (place, store), disk) => do
      let (output, world) ← step ⟨store, now, tape⟩
      return (output, disk.keep place world.store)

end Custody.Cli
