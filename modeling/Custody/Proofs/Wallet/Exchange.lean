import Custody.Proofs.Wallet.Look
import Custody.Proofs.Wallet.Release

/-!
# `Custody.Proofs.Wallet.Exchange`: what a transfer says to the ledger

A transfer is two commands with the ledger in between. `prepare` comes before the ledger is
asked, and `signSubmission` after the nonce is known. Both want the key of the unlocked wallet
and write nothing once they have it.

What is said to the ledger is the list `exchanges`, which a client writes while `send` runs
with it. `exchanges_eq` tells the list without the client's help. It is one lookup at most, and
after it one submission at most.
-/

set_option autoImplicit false

namespace Custody.Wallet

open Time Command
open Store (Slots walletKey sessionKey)

/-! ### The two halves of a transfer -/

section
variable {world after : World} {record : Record} {keypair : Keypair} {typed : String}
  {amount nonce : UInt64}

/-- A call that was given the key writes nothing. -/
theorem Call.follows_of_needsKey {settings : Settings} {call : Call} {a : Answer}
    (hneeds : call.needsKey = true) (h : call.outcome settings world = (.ok a, after)) :
    world.Follows after [] := by
  obtain ⟨next, hcommand, hsteady⟩ := call.command_eq_withKey hneeds settings
  rw [Call.outcome, hcommand] at h
  obtain ⟨record, keypair, -, hnext⟩ := withKey_eq_ok h
  obtain ⟨hworld, -⟩ := hsteady record keypair world.read.read
  rw [hnext] at hworld
  subst hworld
  exact (World.Follows.read world).trans (.read world.read)

/-- Behind the check for the key, preparing is reading the receiver. -/
theorem prepare_eq (typed : String) :
    prepare typed = withKey fun record _ => receiver typed >>= fun _ => pure record := rfl

/-- Preparing writes nothing, if it succeeds. -/
theorem prepare_follows (h : (prepare typed).runIn world = (.ok record, after)) :
    world.Follows after [] := by
  have hcall : (Call.prepare typed).outcome .standard world = (.ok (.record record), after) :=
    Call.outcome_of_run .record rfl h
  exact Call.follows_of_needsKey rfl hcall

/-- A transfer that was prepared is one of the record that is kept. -/
theorem prepare_eq_ok (h : (prepare typed).runIn world = (.ok record, after)) :
    ∃ keypair, Unlocked world.store.slots world.now record keypair := by
  rw [prepare_eq] at h
  obtain ⟨found, keypair, hunlocked, hrest⟩ := withKey_eq_ok h
  obtain ⟨payee, between, -, hpure⟩ := runIn_bind_eq_ok.mp hrest
  cases hpure
  exact ⟨keypair, hunlocked⟩

/-- In an unlocked wallet a transfer to a readable address is prepared. -/
theorem prepare_of_unlocked (hsound : world.Sound)
    (h : Unlocked world.store.slots world.now record keypair) {payee : PublicKey}
    (hpayee : Address.parse typed = .ok payee) :
    (prepare typed).runIn world = (.ok record, world.read.read) := by
  rw [prepare_eq, withKey_of_unlocked hsound h, receiver, hpayee]
  rfl

/-- A submission has the sender and the nonce of its transaction. -/
theorem toSubmission_eq_some {tx : Transaction} {submission : Submission}
    (h : tx.toSubmission = some submission) :
    submission.sender = tx.sender.bytes.bytes ∧ submission.nonce = tx.nonce := by
  have hdraft := Transaction.draft_of_toSubmission h
  exact ⟨congrArg Transfer.Draft.sender hdraft, congrArg Transfer.Draft.nonce hdraft⟩

/-- Making a submission writes nothing, if it succeeds. -/
theorem signSubmission_follows {given : Transaction × Submission}
    (h : (signSubmission typed amount nonce).runIn world = (.ok given, after)) :
    world.Follows after [] := by
  have hcall : (Call.submission typed amount nonce).outcome .standard world
      = (.ok (.submission given.1 given.2), after) :=
    Call.outcome_of_run (fun given => .submission given.1 given.2) rfl h
  exact Call.follows_of_needsKey rfl hcall

/-- A submission is made of the signed transfer. -/
theorem signTransfer_of_signSubmission {tx : Transaction} {submission : Submission}
    (h : (signSubmission typed amount nonce).runIn world = (.ok (tx, submission), after)) :
    (signTransfer typed amount nonce).runIn world = (.ok tx, after)
      ∧ tx.toSubmission = some submission := by
  unfold signSubmission at h
  obtain ⟨found, between, hsign, hrest⟩ := runIn_bind_eq_ok.mp h
  cases hsubmission : found.toSubmission with
  | none =>
      rw [hsubmission] at hrest
      cases hrest
  | some submission =>
      rw [hsubmission] at hrest
      cases hrest
      exact ⟨hsign, hsubmission⟩

/-- What is submitted is a transfer from the wallet that is unlocked now. -/
theorem signSubmission_eq_ok {tx : Transaction} {submission : Submission}
    (h : (signSubmission typed amount nonce).runIn world = (.ok (tx, submission), after)) :
    ∃ record keypair, Unlocked world.store.slots world.now record keypair
      ∧ Transfers record typed amount nonce tx ∧ tx.toSubmission = some submission := by
  obtain ⟨hsign, hsubmission⟩ := signTransfer_of_signSubmission h
  obtain ⟨record, keypair, hunlocked, htransfers⟩ := signTransfer_eq_ok hsign
  exact ⟨record, keypair, hunlocked, htransfers, hsubmission⟩

/-- In an unlocked wallet a submission to a readable address is made. -/
theorem signSubmission_of_unlocked (hsound : world.Sound)
    (h : Unlocked world.store.slots world.now record keypair) {payee : PublicKey}
    (hpayee : Address.parse typed = .ok payee) :
    ∃ tx submission, (signSubmission typed amount nonce).runIn world
      = (.ok (tx, submission), world.read.read) := by
  unfold signSubmission
  rw [runIn_bind, signTransfer_of_unlocked hsound h hpayee]
  exact ⟨_, _, rfl⟩

end

/-- There are unlocked wallets in stores that only the wallet has written to. This one will have
locked itself at the last instant. -/
theorem exists_unlocked :
    ∃ (world : World) (record : Record) (keypair : Keypair),
      Reached world.store.slots ∧ world.Sound ∧ world.now = .epoch
        ∧ Unlocked world.store.slots .epoch record keypair
        ∧ ∀ other, ¬ Unlocked world.store.slots .last record other := by
  let settings : Settings := ⟨.ofSeconds 1800, .light⟩
  let start : World := World.calm ⟨Store.empty, .epoch, .ofBytes [7]⟩ .epoch
  obtain ⟨created, made, hcreate⟩ := exists_created
  obtain ⟨-, phrase, record, -, -, -, hslots, hshows, -⟩ := create_eq_ok hcreate
  have hreached : Reached made.store.slots := by
    have hcall := Reached.call settings start (.create "Correct-Horse-42") .empty
    rw [Call.outcome_of_run .created rfl hcreate] at hcall
    exact hcall
  have hbefore : Instant.epoch.before (Session.keptUntil settings.session .epoch) = true := by
    decide +kernel
  have hafter : Instant.last.before (Session.keptUntil settings.session .epoch) = false := by
    decide +kernel
  refine ⟨made.calm .epoch, record.asRead, phrase.keypair, hreached,
    World.calm_sound made .epoch, rfl, ?_, ?_⟩
  · rw [World.calm_slots, hslots]
    exact unlocked_installed hshows hbefore
  · rw [World.calm_slots, hslots]
    exact not_unlocked_installed hshows hafter

/-! ### What is said to the ledger -/

/-- A question to the ledger, and its answer. -/
inductive Exchange where
  | fetched (address : String) (answer : Except Ledger.Error Ledger.Account)
  | submitted (submission : Submission) (answer : Except Ledger.Error String)

/-- The client that also writes down what is said. -/
def Client.recorded (client : Client Id) : Client (StateM (List Exchange)) where
  fetch address world := do
    let (answer, world) := client.fetch address world
    modify (· ++ [.fetched address answer])
    return (answer, world)
  submit submission world := do
    let (answer, world) := client.submit submission world
    modify (· ++ [.submitted submission answer])
    return (answer, world)

/-- What a transfer says to the ledger, in this order. -/
def exchanges (client : Client Id) (typed : String) (amount : UInt64) (world : World) :
    List Exchange :=
  ((send client.recorded typed amount world).run []).2

/-- What is said after the lookup. -/
def submissions (client : Client Id) (typed : String) (amount nonce : UInt64) (world : World) :
    List Exchange :=
  match (signSubmission typed amount nonce).runIn world with
  | (.error _, _) => []
  | (.ok (_, submission), world) => [.submitted submission (client.submit submission world).1]

section
variable (client : Client Id) (typed : String) (amount nonce : UInt64) (world : World)

/-- A recorded question is asked like any other, and noted with its answer. -/
theorem run_fetch_recorded (address : String) (said : List Exchange) :
    (client.recorded.fetch address world).run said
      = (client.fetch address world,
        said ++ [.fetched address (client.fetch address world).1]) := rfl

/-- A recorded submission is made like any other, and noted with its answer. -/
theorem run_submit_recorded (submission : Submission) (said : List Exchange) :
    (client.recorded.submit submission world).run said
      = (client.submit submission world,
        said ++ [.submitted submission (client.submit submission world).1]) := rfl

/-- One step after another, with the list handed on. -/
theorem run_bind_said {α β : Type} (step : StateM (List Exchange) α)
    (next : α → StateM (List Exchange) β) (said : List Exchange) :
    (step >>= next).run said = (next (step.run said).1).run (step.run said).2 := rfl

/-- A transfer with a client that writes down what is said is the transfer itself, and the
list. -/
theorem run_send_recorded :
    (send client.recorded typed amount world).run []
      = (send client typed amount world,
        match (prepare typed).runIn world with
        | (.error _, _) => []
        | (.ok record, world) =>
          .fetched record.address (client.fetch record.address world).1 ::
            match client.fetch record.address world with
            | (.error _, _) => []
            | (.ok account, world) => submissions client typed amount account.nonce world) := by
  rw [send_eq]
  unfold send submissions settle
  cases (prepare typed).runIn world with
  | mk result prepared =>
      cases result with
      | error e => rfl
      | ok record =>
          simp only
          rw [run_bind_said, run_fetch_recorded]
          cases client.fetch record.address prepared with
          | mk result fetched =>
              cases result with
              | error e => rfl
              | ok account =>
                  simp only
                  cases (signSubmission typed amount account.nonce).runIn fetched with
                  | mk result signed =>
                      cases result with
                      | error e => rfl
                      | ok given =>
                          obtain ⟨tx, submission⟩ := given
                          simp only
                          rw [run_bind_said, run_submit_recorded]
                          cases client.submit submission signed with
                          | mk result submitted => cases result <;> rfl

/-- What is said: nothing without a record, then the question, and then what the answer leads to.
-/
theorem exchanges_eq :
    exchanges client typed amount world =
      match (prepare typed).runIn world with
      | (.error _, _) => []
      | (.ok record, world) =>
        .fetched record.address (client.fetch record.address world).1 ::
          match client.fetch record.address world with
          | (.error _, _) => []
          | (.ok account, world) => submissions client typed amount account.nonce world :=
  congrArg Prod.snd (run_send_recorded client typed amount world)

end

section
variable {client : Client Id} {typed : String} {amount nonce : UInt64} {world : World}
  {submission : Submission}

/-- What is said where all goes well up to the submission. -/
theorem exchanges_of_runs {prepared fetched signed : World} {record : Record}
    {account : Ledger.Account} {tx : Transaction}
    (hprepare : (prepare typed).runIn world = (.ok record, prepared))
    (hfetch : client.fetch record.address prepared = (.ok account, fetched))
    (hsign : (signSubmission typed amount account.nonce).runIn fetched
      = (.ok (tx, submission), signed)) :
    exchanges client typed amount world
      = [.fetched record.address (.ok account),
        .submitted submission (client.submit submission signed).1] := by
  rw [exchanges_eq, hprepare]
  unfold submissions
  simp only [hfetch, hsign]

/-- A submission was signed in the world that the lookup has left, with the nonce that it has
told, and it is the last thing that is said. -/
theorem runs_of_submitted {answer : Except Ledger.Error String}
    (h : .submitted submission answer ∈ exchanges client typed amount world) :
    ∃ prepared fetched signed record account tx,
      (prepare typed).runIn world = (.ok record, prepared)
        ∧ client.fetch record.address prepared = (.ok account, fetched)
        ∧ (signSubmission typed amount account.nonce).runIn fetched = (.ok (tx, submission), signed)
        ∧ exchanges client typed amount world
          = [.fetched record.address (.ok account), .submitted submission answer] := by
  rw [exchanges_eq] at h ⊢
  cases hprepare : (prepare typed).runIn world with
  | mk result prepared =>
      rw [hprepare] at h
      cases result with
      | error e => exact absurd h List.not_mem_nil
      | ok record =>
          simp only at h ⊢
          cases hfetch : client.fetch record.address prepared with
          | mk result fetched =>
              rw [hfetch] at h
              cases result with
              | error e => simp at h
              | ok account =>
                  simp only [submissions] at h ⊢
                  cases hsign : (signSubmission typed amount account.nonce).runIn fetched with
                  | mk result signed =>
                      rw [hsign] at h
                      cases result with
                      | error e => simp at h
                      | ok given =>
                          obtain ⟨tx, found⟩ := given
                          simp only [List.mem_cons, reduceCtorEq, List.not_mem_nil, or_false,
                            false_or, Exchange.submitted.injEq] at h
                          obtain ⟨rfl, rfl⟩ := h
                          exact ⟨prepared, fetched, signed, record, account, tx, rfl, hfetch,
                            hsign, rfl⟩

end

end Custody.Wallet
