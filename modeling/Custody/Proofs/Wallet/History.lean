import Custody.Proofs.World
import Custody.Ticker
import Custody.Wallet.Send

/-!
# `Custody.Proofs.Wallet.History`: calls, and runs of them

What is said of a wallet over time is said of runs. A `Call` is one of the wallet's commands
with its arguments, and `Call.command` is what it runs. A transfer through the ledger is two
calls, `prepare` and `submission`, with whatever happens in between while the ledger is asked.

`Run` starts in some world and makes call after call on a store that does not fail, with the
clock at any reading before each. Every call leaves an `Event`.
-/

set_option autoImplicit false

namespace Custody

open Time

namespace Wallet

/-- A command of the wallet with its arguments. -/
inductive Call where
  | create (password : String)
  | restore (typed password : String)
  | unlock (password : String)
  | lock
  | delete
  | changePassword (old new : String)
  | touch
  | isUnlocked
  | expiresAt
  | state
  | exportPhrase (password : String)
  | exportKey (password : String)
  | sign (typed : String) (amount nonce : UInt64)
  /-- The part of a transfer before the ledger is asked. -/
  | prepare (typed : String)
  /-- The part of a transfer after the ledger has told the nonce. -/
  | submission (typed : String) (amount nonce : UInt64)
  /-- A look at the session by the ticker. -/
  | tick
  deriving DecidableEq

/-- What a call answers. -/
inductive Answer where
  | done
  | created (created : Created)
  | summary (summary : Summary)
  | flag (value : Bool)
  | deadline (expiresAt : Option Instant)
  | state (state : State)
  | text (text : String)
  | record (record : Record)
  | transaction (transaction : Transaction)
  | submission (transaction : Transaction) (submission : Submission)
  deriving DecidableEq

namespace Call

/-- What a call runs. -/
def command (settings : Settings) : Call → Command Answer
  | .create password => .created <$> Wallet.create settings password
  | .restore typed password => .summary <$> Wallet.restore settings typed password
  | .unlock password => .summary <$> Wallet.unlock settings password
  | .lock => (fun _ => .done) <$> Wallet.lock
  | .delete => (fun _ => .done) <$> Wallet.delete
  | .changePassword old new => (fun _ => .done) <$> Wallet.changePassword settings old new
  | .touch => .flag <$> Wallet.touch settings
  | .isUnlocked => .flag <$> Wallet.isUnlocked
  | .expiresAt => .deadline <$> Wallet.expiresAt
  | .state => .state <$> Wallet.state
  | .exportPhrase password => .text <$> Wallet.exportPhrase password
  | .exportKey password => .text <$> Wallet.exportKey password
  | .sign typed amount nonce => .transaction <$> Wallet.signTransfer typed amount nonce
  | .prepare typed => .record <$> Wallet.prepare typed
  | .submission typed amount nonce =>
    (fun (tx, given) => .submission tx given) <$>
      Wallet.signSubmission typed amount nonce
  | .tick => (fun _ => .done) <$> Wallet.autoLock

/-- The answer of a call, and the world after it. -/
def outcome (settings : Settings) (world : World) (call : Call) :
    Except WalletError Answer × World :=
  (call.command settings).runIn world

end Call

/-- A call that was made: when, what it answered, and what the store held before and after. -/
structure Event where
  call : Call
  now : Instant
  answer : Except WalletError Answer
  before : Store.Slots
  after : Store.Slots

/-- What is noted of a call. -/
def Call.event (settings : Settings) (world : World) (call : Call) : Event :=
  ⟨call, world.now, (call.outcome settings world).1, world.store.slots,
    (call.outcome settings world).2.store.slots⟩

/-- What a call comes to, told by the command that it runs. -/
theorem Call.outcome_of_run {settings : Settings} {world after : World} {α : Type}
    {command : Command α} {result : Except WalletError α} {call : Call} (form : α → Answer)
    (hcommand : call.command settings = form <$> command)
    (hrun : command.runIn world = (result, after)) :
    call.outcome settings world = (result.map form, after) := by
  rw [Call.outcome, hcommand, Command.runIn_map, hrun]

/-- What is noted of a call, told by the command that it runs. -/
theorem Call.event_of_run {settings : Settings} {world after : World} {α : Type}
    {command : Command α} {result : Except WalletError α} {call : Call} (form : α → Answer)
    (hcommand : call.command settings = form <$> command)
    (hrun : command.runIn world = (result, after)) :
    call.event settings world
      = ⟨call, world.now, result.map form, world.store.slots, after.store.slots⟩ := by
  rw [Call.event, Call.outcome_of_run form hcommand hrun]

/-- From the world `start`, these events lead to that world. Before each call the clock is set
to any reading; the store does not fail. -/
inductive Run (settings : Settings) (start : World) : List Event → World → Prop where
  | start : Run settings start [] start
  | call {past : List Event} {world : World} (now : Instant) (call : Call)
      (run : Run settings start past world) :
      Run settings start (past ++ [call.event settings (world.calm now)])
        (call.outcome settings (world.calm now)).2

/-! ### Transfers -/

/-- Whatever happens to the wallet while this ledger is asked are calls of the wallet. -/
structure Client.Concurrent (client : Client Id) (settings : Settings) (start : World) : Prop where
  fetch : ∀ (past : List Event) (world : World) (address : String),
    Run settings start past world → ∃ more later now,
      Run settings start (past ++ more) later ∧ (client.fetch address world).2 = later.calm now
  submit : ∀ (past : List Event) (world : World) (submission : Submission),
    Run settings start past world → ∃ more later now,
      Run settings start (past ++ more) later ∧ (client.submit submission world).2 = later.calm now

variable {settings : Settings} {start : World}

/-- A call of the wallet, told by the command that it runs. -/
theorem Run.of_command {past : List Event} {world : World} (hrun : Run settings start past world)
    (now : Instant) {α : Type} {command : Command α} (call : Call) (form : α → Answer)
    (hcommand : call.command settings = form <$> command) :
    Run settings start (past ++ [call.event settings (world.calm now)])
      (command.runIn (world.calm now)).2 := by
  have hcall := hrun.call now call
  have houtcome : (call.outcome settings (world.calm now)).2
      = (command.runIn (world.calm now)).2 := by
    rw [Call.outcome, hcommand, Command.runIn_map]
  rwa [houtcome] at hcall

/-- A transfer from the nonce on, with a ledger that answers at once. -/
def settle (client : Client Id) (typed : String) (amount nonce : UInt64) (world : World) :
    Except WalletError Receipt × World :=
  match (signSubmission typed amount nonce).runIn world with
  | (.error e, world) => (.error e, world)
  | (.ok (transaction, submission), world) =>
    match client.submit submission world with
    | (.error e, world) => (.error (.ledger e), world)
    | (.ok response, world) => (.ok ⟨transaction, response⟩, world)

/-- A transfer is prepared, then the account is fetched, then it is settled. -/
theorem send_eq (client : Client Id) (typed : String) (amount : UInt64) (world : World) :
    send client typed amount world =
      match (prepare typed).runIn world with
      | (.error e, world) => (.error e, world)
      | (.ok record, world) =>
        match client.fetch record.address world with
        | (.error e, world) => (.error (.ledger e), world)
        | (.ok account, world) => settle client typed amount account.nonce world := rfl

/-- The second half of a transfer is part of a run: of the call `submission` and of the calls
that others make while the ledger takes it. -/
theorem Run.settle {client : Client Id} (hclient : client.Concurrent settings start)
    {past : List Event} {world : World} (hrun : Run settings start past world) (now : Instant)
    (typed : String) (amount nonce : UInt64) :
    ∃ more later, Run settings start (past ++ more) later
      ∧ ∀ t, (Wallet.settle client typed amount nonce (world.calm now)).2.calm t
          = later.calm t := by
  have hsigned := hrun.of_command now (.submission typed amount nonce) _ rfl
  unfold Wallet.settle
  cases hsign : (signSubmission typed amount nonce).runIn (world.calm now) with
  | mk result signed =>
      rw [hsign] at hsigned
      cases result with
      | error e => exact ⟨_, signed, hsigned, fun _ => rfl⟩
      | ok given =>
          obtain ⟨transaction, submission⟩ := given
          obtain ⟨more, later, now', hlater, hsubmitted⟩ :=
            hclient.submit _ _ submission hsigned
          rw [List.append_assoc] at hlater
          simp only
          cases hsubmit : client.submit submission signed with
          | mk result submitted =>
              rw [hsubmit] at hsubmitted
              obtain rfl : submitted = later.calm now' := hsubmitted
              cases result with
              | error e => exact ⟨_, later, hlater, fun _ => rfl⟩
              | ok response => exact ⟨_, later, hlater, fun _ => rfl⟩

/-- So a transfer is part of a run: of the calls `prepare` and `submission` and of the calls that
others make while the ledger is asked. No call can tell the world that it leaves from that of
the run. -/
theorem Run.send {client : Client Id} (hclient : client.Concurrent settings start)
    {past : List Event} {world : World} (hrun : Run settings start past world) (now : Instant)
    (typed : String) (amount : UInt64) :
    ∃ more later, Run settings start (past ++ more) later
      ∧ ∀ t, (Wallet.send client typed amount (world.calm now)).2.calm t = later.calm t := by
  have hprepared := hrun.of_command now (.prepare typed) .record rfl
  rw [send_eq]
  cases hprepare : (Wallet.prepare typed).runIn (world.calm now) with
  | mk result between =>
      rw [hprepare] at hprepared
      cases result with
      | error e => exact ⟨_, between, hprepared, fun _ => rfl⟩
      | ok record =>
          obtain ⟨more, asked, now', hasked, hfetched⟩ :=
            hclient.fetch _ _ record.address hprepared
          rw [List.append_assoc] at hasked
          simp only
          cases hfetch : client.fetch record.address between with
          | mk result fetched =>
              rw [hfetch] at hfetched
              obtain rfl : fetched = asked.calm now' := hfetched
              cases result with
              | error e => exact ⟨_, asked, hasked, fun _ => rfl⟩
              | ok account =>
                  -- The wallet may be locked, or another one, by now.
                  obtain ⟨rest, later, hlater, hsame⟩ :=
                    hasked.settle hclient now' typed amount account.nonce
                  rw [List.append_assoc] at hlater
                  exact ⟨_, later, hlater, hsame⟩

end Wallet

end Custody
