import Custody.Proofs.Wallet.Refusal

/-!
# `Custody.Proofs.Wallet.Course`: the course of a transfer

A transfer stops at the first thing that goes wrong, so it takes one of four courses (`Course`):
it is refused before the ledger is asked, the ledger does not tell the account, the wallet is
refused when it is asked again, or the transfer is submitted. Each course fixes all that is said
to the ledger, the answer and the world that is left. `send_course` says that there is no fifth.

How a transfer deals with the ledger is read off the courses (`Orderly`, `transfer_is_orderly`).
The ledger is asked for one account at most, and given one submission at most, each by a wallet
that is unlocked at that moment. On a store that does not fail, an unlocked wallet does ask and
does submit. The ledger is any client that leaves the wallet's store alone. It may move the
clock, so the session can be over when the account is told.
-/

set_option autoImplicit false

namespace Custody.Wallet

open Time Command
open Store (Slots walletKey sessionKey)

/-- What comes of a transfer that was submitted. -/
def Receipt.ofAnswer (tx : Transaction) (answer : Except Ledger.Error String) :
    Except WalletError Receipt :=
  match answer with
  | .error e => .error (.ledger e)
  | .ok response => .ok ⟨tx, response⟩

/-- How one transfer goes: what is said to the ledger, the answer, and the world that is left. -/
inductive Course (client : Client Id) (typed : String) (amount : UInt64) (world : World) :
    List Exchange → Except WalletError Receipt → World → Prop where
  /-- The ledger is not asked. -/
  | refused {e : WalletError} {after : World}
      (prepared : (prepare typed).runIn world = (.error e, after)) :
      Course client typed amount world [] (.error e) after
  /-- The ledger does not tell the account. -/
  | unanswered {record : Record} {between after : World} {e : Ledger.Error}
      (prepared : (prepare typed).runIn world = (.ok record, between))
      (fetched : client.fetch record.address between = (.error e, after)) :
      Course client typed amount world [.fetched record.address (.error e)]
        (.error (.ledger e)) after
  /-- The wallet, asked again, is refused. -/
  | stopped {record : Record} {between later after : World} {account : Ledger.Account}
      {e : WalletError}
      (prepared : (prepare typed).runIn world = (.ok record, between))
      (fetched : client.fetch record.address between = (.ok account, later))
      (signed : (signSubmission typed amount account.nonce).runIn later = (.error e, after)) :
      Course client typed amount world [.fetched record.address (.ok account)] (.error e) after
  /-- The transfer is submitted. -/
  | submitted {record : Record} {between later given after : World} {account : Ledger.Account}
      {tx : Transaction} {submission : Submission} {answer : Except Ledger.Error String}
      (prepared : (prepare typed).runIn world = (.ok record, between))
      (fetched : client.fetch record.address between = (.ok account, later))
      (signed : (signSubmission typed amount account.nonce).runIn later
        = (.ok (tx, submission), given))
      (taken : client.submit submission given = (answer, after)) :
      Course client typed amount world
        [.fetched record.address (.ok account), .submitted submission answer]
        (Receipt.ofAnswer tx answer) after

/-! ### Every transfer takes one of the courses -/

section
variable (client : Client Id) (typed : String) (amount nonce : UInt64) (world : World)

/-- What is said and answered from the nonce on. -/
theorem settle_eq :
    settle client typed amount nonce world
      = match (signSubmission typed amount nonce).runIn world with
        | (.error e, world) => (.error e, world)
        | (.ok (tx, submission), world) =>
          (Receipt.ofAnswer tx (client.submit submission world).1,
            (client.submit submission world).2) := by
  unfold settle Receipt.ofAnswer
  cases (signSubmission typed amount nonce).runIn world with
  | mk result signed =>
      cases result with
      | error e => rfl
      | ok given =>
          simp only
          cases client.submit given.2 signed with
          | mk answer after => cases answer <;> rfl

/-- Every transfer takes one of the courses. -/
theorem send_course :
    Course client typed amount world (exchanges client typed amount world)
      (send client typed amount world).1 (send client typed amount world).2 := by
  rw [exchanges_eq, send_eq]
  cases hprepare : (prepare typed).runIn world with
  | mk result between =>
      cases result with
      | error e => exact .refused hprepare
      | ok record =>
          simp only
          cases hfetch : client.fetch record.address between with
          | mk told later =>
              cases told with
              | error e => exact .unanswered hprepare hfetch
              | ok account =>
                  simp only [submissions, settle_eq]
                  cases hsign : (signSubmission typed amount account.nonce).runIn later with
                  | mk result given =>
                      cases result with
                      | error e => exact .stopped hprepare hfetch hsign
                      | ok pair => exact .submitted hprepare hfetch hsign rfl

end

/-! ### What holds on the way -/

section
variable {client : Client Id} {typed : String} {amount nonce : UInt64} {world after : World}
  {record : Record} {keypair : Keypair}

/-- What a transfer was prepared for is an address. -/
theorem parse_of_prepare (h : (prepare typed).runIn world = (.ok record, after)) :
    ∃ payee, Address.parse typed = .ok payee := by
  rw [prepare_eq] at h
  obtain ⟨found, keypair, -, hrest⟩ := withKey_eq_ok h
  obtain ⟨payee, between, hreceiver, -⟩ := runIn_bind_eq_ok.mp hrest
  unfold receiver at hreceiver
  cases hparse : Address.parse typed with
  | error fault =>
      rw [hparse] at hreceiver
      cases hreceiver
  | ok payee => exact ⟨payee, rfl⟩

/-- On a store that does not fail, a wallet that has locked itself submits nothing. -/
theorem signSubmission_of_locked (hsound : world.Sound)
    (hreadable : ReadableSession world.store.slots)
    (hkeeps : world.store.slots.KeepsRecord record)
    (h : ∀ keypair, ¬ Unlocked world.store.slots world.now record keypair) :
    ∃ after, (signSubmission typed amount nonce).runIn world = (.error .locked, after) := by
  obtain ⟨after, hlocked, -⟩ : ∃ after,
      (signTransfer typed amount nonce).runIn world = (.error .locked, after)
        ∧ after.store.slots = world.store.slots.erase sessionKey :=
    withKey_of_locked hsound hreadable hkeeps h
  unfold signSubmission
  rw [runIn_bind, hlocked]
  exact ⟨after, rfl⟩

/-- Neither preparing a transfer nor looking up the account has touched the store. -/
theorem store_of_fetch (hclient : client.KeepsStore) {between later : World}
    {told : Except Ledger.Error Ledger.Account}
    (hprepare : (prepare typed).runIn world = (.ok record, between))
    (hfetch : client.fetch record.address between = (told, later)) :
    later.store.journal = world.store.journal ∧ later.store.slots = world.store.slots
      ∧ (world.Sound → later.Sound) := by
  have hfollows := prepare_follows hprepare
  have hstore := hclient.fetch record.address between
  rw [hfetch] at hstore
  unfold World.Sound
  rw [hstore, hfollows.fate, hfollows.journal, List.append_nil]
  exact ⟨rfl, hfollows.slots_nil, id⟩

end

/-! ### What every course keeps to -/

/-- How a transfer deals with the ledger, and what it makes of the answers. -/
structure Orderly (client : Client Id) (typed : String) (amount : UInt64) (world : World)
    (said : List Exchange) (result : Except WalletError Receipt) (after : World) : Prop where
  /-- The ledger is asked for one account at most. It is given a submission only where it has
  told the account, and then only one. -/
  said_cases : said = []
    ∨ (∃ address told, said = [.fetched address told])
    ∨ ∃ address account submission answer,
      said = [.fetched address (.ok account), .submitted submission answer]
  /-- A wallet that asks is unlocked, and the receiver is an address. -/
  of_said : said ≠ [] → ∃ record keypair payee told rest,
    said = .fetched record.address told :: rest
      ∧ Unlocked world.store.slots world.now record keypair ∧ Address.parse typed = .ok payee
  /-- What is submitted is signed with the nonce that was told, by a wallet that is unlocked
  still. The answer decides about the transfer. -/
  of_submitted : ∀ submission answer, .submitted submission answer ∈ said →
    ∃ record keypair account between later given tx,
      (prepare typed).runIn world = (.ok record, between)
        ∧ client.fetch record.address between = (.ok account, later)
        ∧ Unlocked world.store.slots later.now record keypair
        ∧ (signTransfer typed amount account.nonce).runIn later = (.ok tx, given)
        ∧ tx.toSubmission = some submission
        ∧ client.submit submission given = (answer, after)
        ∧ result = Receipt.ofAnswer tx answer
  /-- A receipt has the transfer that was submitted and the answer to it. -/
  of_ok : ∀ receipt, result = .ok receipt → ∃ submission,
    .submitted submission (.ok receipt.response) ∈ said
      ∧ receipt.transaction.toSubmission = some submission
  /-- An error of the ledger is passed on, and nothing has been written. -/
  of_ledger_error : ∀ e, (∃ address, .fetched address (.error e) ∈ said)
      ∨ (∃ submission, .submitted submission (.error e) ∈ said) →
    result = .error (.ledger e) ∧ after.store.journal = world.store.journal
      ∧ after.store.slots = world.store.slots
  /-- On a store that does not fail, an unlocked wallet does ask. -/
  asks : world.Sound → ∀ record keypair payee,
    Unlocked world.store.slots world.now record keypair → Address.parse typed = .ok payee →
      ∃ told rest, said = .fetched record.address told :: rest
  /-- If it is unlocked still when the account is told, it does submit. -/
  submits : world.Sound → ∀ record keypair between later account,
    (prepare typed).runIn world = (.ok record, between) →
      client.fetch record.address between = (.ok account, later) →
        Unlocked world.store.slots later.now record keypair →
          ∃ submission answer,
            said = [.fetched record.address (.ok account), .submitted submission answer]
  /-- If it is not, it says so and does not submit. -/
  stops : world.Sound → ∀ record between later account,
    (prepare typed).runIn world = (.ok record, between) →
      client.fetch record.address between = (.ok account, later) →
        (∀ keypair, ¬ Unlocked world.store.slots later.now record keypair) →
          result = .error .locked ∧ said = [.fetched record.address (.ok account)]

namespace Course

variable {client : Client Id} {typed : String} {amount : UInt64} {world after : World}
  {said : List Exchange} {result : Except WalletError Receipt}

/-- On any course the ledger hears nothing, or one question, or a question and then a submission.
-/
theorem said_cases (h : Course client typed amount world said result after) :
    said = [] ∨ (∃ address told, said = [.fetched address told])
      ∨ ∃ address account submission answer,
        said = [.fetched address (.ok account), .submitted submission answer] := by
  cases h with
  | refused => exact .inl rfl
  | unanswered => exact .inr (.inl ⟨_, _, rfl⟩)
  | stopped => exact .inr (.inl ⟨_, _, rfl⟩)
  | submitted => exact .inr (.inr ⟨_, _, _, _, rfl⟩)

/-- A course on which something is said begins with a lookup. -/
theorem of_said (h : Course client typed amount world said result after) (hsaid : said ≠ []) :
    ∃ record keypair payee told rest, said = .fetched record.address told :: rest
      ∧ Unlocked world.store.slots world.now record keypair
      ∧ Address.parse typed = .ok payee := by
  obtain ⟨record, between, told, rest, hprepare, hhead⟩ : ∃ record between told rest,
      (prepare typed).runIn world = (.ok record, between)
        ∧ said = .fetched record.address told :: rest := by
    cases h with
    | refused => exact absurd rfl hsaid
    | unanswered prepared => exact ⟨_, _, _, _, prepared, rfl⟩
    | stopped prepared => exact ⟨_, _, _, _, prepared, rfl⟩
    | submitted prepared => exact ⟨_, _, _, _, prepared, rfl⟩
  obtain ⟨keypair, hunlocked⟩ := prepare_eq_ok hprepare
  obtain ⟨payee, hpayee⟩ := parse_of_prepare hprepare
  exact ⟨record, keypair, payee, told, rest, hhead, hunlocked, hpayee⟩

/-- What was submitted was signed in an unlocked wallet after the account was told, and the
ledger's answer to it is the result. -/
theorem of_submitted (hclient : client.KeepsStore)
    (h : Course client typed amount world said result after) {submission : Submission}
    {answer : Except Ledger.Error String} (hmem : .submitted submission answer ∈ said) :
    ∃ record keypair account between later given tx,
      (prepare typed).runIn world = (.ok record, between)
        ∧ client.fetch record.address between = (.ok account, later)
        ∧ Unlocked world.store.slots later.now record keypair
        ∧ (signTransfer typed amount account.nonce).runIn later = (.ok tx, given)
        ∧ tx.toSubmission = some submission
        ∧ client.submit submission given = (answer, after)
        ∧ result = Receipt.ofAnswer tx answer := by
  cases h with
  | refused => simp at hmem
  | unanswered => simp at hmem
  | stopped => simp at hmem
  | @submitted record between later given after account tx found told prepared fetched signed
      taken =>
      simp only [List.mem_cons, reduceCtorEq, List.not_mem_nil, or_false, false_or,
        Exchange.submitted.injEq] at hmem
      obtain ⟨rfl, rfl⟩ := hmem
      obtain ⟨hsign, hsubmission⟩ := signTransfer_of_signSubmission signed
      obtain ⟨found, keypair, hunlocked, -⟩ := signTransfer_eq_ok hsign
      obtain ⟨-, hslots, -⟩ := store_of_fetch hclient prepared fetched
      rw [hslots] at hunlocked
      -- The slots keep one record, so the wallet that signs is the one that has asked.
      obtain ⟨first, hfirst⟩ := prepare_eq_ok prepared
      have hsame : found = record := hfirst.kept.unique hunlocked.kept
      rw [hsame] at hunlocked
      exact ⟨record, keypair, account, between, later, given, tx, prepared, fetched, hunlocked,
        hsign, hsubmission, taken, rfl⟩

/-- A receipt is that of a submission that the ledger has accepted. -/
theorem of_ok {receipt : Receipt} (h : Course client typed amount world said (.ok receipt) after) :
    ∃ submission, .submitted submission (.ok receipt.response) ∈ said
      ∧ receipt.transaction.toSubmission = some submission := by
  generalize hresult : Except.ok receipt = result at h
  cases h with
  | refused => cases hresult
  | unanswered => cases hresult
  | stopped => cases hresult
  | @submitted _ _ _ _ _ _ tx submission answer prepared fetched signed taken =>
      obtain ⟨-, hsubmission⟩ := signTransfer_of_signSubmission signed
      cases answer with
      | error e => cases hresult
      | ok response =>
          cases hresult
          exact ⟨submission, List.mem_cons_of_mem _ List.mem_cons_self, hsubmission⟩

/-- An error that the ledger has answered is the result, and nothing was written. -/
theorem of_ledger_error (hclient : client.KeepsStore)
    (h : Course client typed amount world said result after) {e : Ledger.Error}
    (hmem : (∃ address, .fetched address (.error e) ∈ said)
      ∨ ∃ submission, .submitted submission (.error e) ∈ said) :
    result = .error (.ledger e) ∧ after.store.journal = world.store.journal
      ∧ after.store.slots = world.store.slots := by
  cases h with
  | refused => simp at hmem
  | unanswered prepared fetched =>
      simp at hmem
      subst hmem
      obtain ⟨hjournal, hslots, -⟩ := store_of_fetch hclient prepared fetched
      exact ⟨rfl, hjournal, hslots⟩
  | stopped => simp at hmem
  | @submitted _ _ _ given _ _ _ submission _ prepared fetched signed taken =>
      simp at hmem
      subst hmem
      obtain ⟨hjournal, hslots, -⟩ := store_of_fetch hclient prepared fetched
      have hfollows := signSubmission_follows signed
      have hstore := hclient.submit submission given
      rw [taken] at hstore
      refine ⟨rfl, ?_, ?_⟩
      · rw [hstore, hfollows.journal, List.append_nil, hjournal]
      · rw [hstore, hfollows.slots_nil, hslots]

/-- An unlocked wallet asks for the account, if the receiver can be read. -/
theorem asks (h : Course client typed amount world said result after) (hsound : world.Sound)
    {record : Record} {keypair : Keypair} {payee : PublicKey}
    (hunlocked : Unlocked world.store.slots world.now record keypair)
    (hpayee : Address.parse typed = .ok payee) :
    ∃ told rest, said = .fetched record.address told :: rest := by
  have hprepare := prepare_of_unlocked hsound hunlocked hpayee
  cases h with
  | refused prepared =>
      rw [hprepare] at prepared
      cases prepared
  | unanswered prepared =>
      rw [hprepare] at prepared
      cases prepared
      exact ⟨_, _, rfl⟩
  | stopped prepared =>
      rw [hprepare] at prepared
      cases prepared
      exact ⟨_, _, rfl⟩
  | submitted prepared =>
      rw [hprepare] at prepared
      cases prepared
      exact ⟨_, _, rfl⟩

section
variable {record : Record} {between later : World} {account : Ledger.Account}
  (hclient : client.KeepsStore) (hsound : world.Sound)
  (hprepare : (prepare typed).runIn world = (.ok record, between))
  (hfetch : client.fetch record.address between = (.ok account, later))

include hprepare hfetch

/-- A course on which the account was told ends with the second look at the wallet, or with a
submission. -/
theorem of_told (h : Course client typed amount world said result after) :
    (∃ e, (signSubmission typed amount account.nonce).runIn later = (.error e, after)
        ∧ result = .error e ∧ said = [.fetched record.address (.ok account)])
      ∨ ∃ given left answer, (signSubmission typed amount account.nonce).runIn later
          = (.ok given, left)
        ∧ said = [.fetched record.address (.ok account), .submitted given.2 answer] := by
  cases h with
  | refused prepared =>
      rw [hprepare] at prepared
      cases prepared
  | unanswered prepared fetched =>
      rw [hprepare] at prepared
      cases prepared
      rw [hfetch] at fetched
      cases fetched
  | stopped prepared fetched signed =>
      rw [hprepare] at prepared
      cases prepared
      rw [hfetch] at fetched
      cases fetched
      exact .inl ⟨_, signed, rfl, rfl⟩
  | submitted prepared fetched signed =>
      rw [hprepare] at prepared
      cases prepared
      rw [hfetch] at fetched
      cases fetched
      exact .inr ⟨_, _, _, signed, rfl⟩

include hclient hsound

/-- If the wallet is still unlocked when the account is told, the transfer is submitted. -/
theorem submits (h : Course client typed amount world said result after) {keypair : Keypair}
    (hunlocked : Unlocked world.store.slots later.now record keypair) :
    ∃ submission answer,
      said = [.fetched record.address (.ok account), .submitted submission answer] := by
  obtain ⟨-, hslots, hlater⟩ := store_of_fetch hclient hprepare hfetch
  rw [← hslots] at hunlocked
  obtain ⟨payee, hpayee⟩ := parse_of_prepare hprepare
  obtain ⟨tx, submission, hsign⟩ : ∃ tx submission,
      (signSubmission typed amount account.nonce).runIn later
        = (.ok (tx, submission), later.read.read) :=
    signSubmission_of_unlocked (hlater hsound) hunlocked hpayee
  rcases h.of_told hprepare hfetch with ⟨e, hrefused, -⟩ | ⟨given, left, answer, -, hsaid⟩
  · rw [hsign] at hrefused
    cases hrefused
  · exact ⟨given.2, answer, hsaid⟩

/-- If the wallet is locked when the account is told, nothing is submitted. -/
theorem stops (h : Course client typed amount world said result after)
    (hlocked : ∀ keypair, ¬ Unlocked world.store.slots later.now record keypair) :
    result = .error .locked ∧ said = [.fetched record.address (.ok account)] := by
  obtain ⟨-, hslots, hlater⟩ := store_of_fetch hclient hprepare hfetch
  -- The session that the transfer was prepared with is there still, if late.
  obtain ⟨first, hfirst⟩ := prepare_eq_ok hprepare
  obtain ⟨session, hsession, -, -⟩ := hfirst.live
  have hkept := hfirst.kept
  rw [← hslots] at hlocked hsession hkept
  obtain ⟨left, hsign⟩ : ∃ left, (signSubmission typed amount account.nonce).runIn later
      = (.error .locked, left) :=
    signSubmission_of_locked (hlater hsound) (readableSession_of_keeps hsession) hkept hlocked
  rcases h.of_told hprepare hfetch with
    ⟨e, hrefused, hresult, hsaid⟩ | ⟨given, left, -, hgiven, -⟩
  · rw [hsign] at hrefused
    cases hrefused
    exact ⟨hresult, hsaid⟩
  · -- The wallet has said that it is locked, so nothing was signed.
    rw [hsign] at hgiven
    cases hgiven

end

end Course

/-- Every transfer deals with the ledger in this way, whatever is stored, whatever the ledger
answers, and however the clock moves while it is asked. -/
theorem transfer_is_orderly (client : Client Id) (hclient : client.KeepsStore) (typed : String)
    (amount : UInt64) (world : World) :
    Orderly client typed amount world (exchanges client typed amount world)
      (send client typed amount world).1 (send client typed amount world).2 := by
  have hcourse := send_course client typed amount world
  exact {
    said_cases := hcourse.said_cases
    of_said := hcourse.of_said
    of_submitted := fun _ _ h => hcourse.of_submitted hclient h
    of_ok := fun receipt h => by
      rw [h] at hcourse
      exact hcourse.of_ok
    of_ledger_error := fun _ h => hcourse.of_ledger_error hclient h
    asks := fun hsound _ _ _ h hpayee => hcourse.asks hsound h hpayee
    submits := fun hsound _ _ _ _ _ hprepare hfetch h =>
      hcourse.submits hclient hsound hprepare hfetch h
    stops := fun hsound _ _ _ _ hprepare hfetch h =>
      hcourse.stops hclient hsound hprepare hfetch h }

/-- A ledger that tells the account at this instant. -/
def ledgerAt (now : Instant) : Client Id where
  fetch _ world := (.ok ⟨1000, 7⟩, { world with now })
  submit _ world := (.ok "accepted", world)

/-- A ledger that only lets time pass leaves the store alone. -/
theorem ledgerAt_keepsStore (now : Instant) : (ledgerAt now).KeepsStore :=
  ⟨fun _ _ => rfl, fun _ _ => rfl⟩

/-- One wallet and one transfer. Told at once, the nonce is signed and submitted; told when the
session is over, it is not. -/
theorem transfer_is_orderly_late :
    ∃ (world : World) (record : Record) (submission : Submission) (receipt : Receipt),
      exchanges (ledgerAt .epoch)
          "0x00112233445566778899aabbccddeeff00112233445566778899aabbccddeeff" 5 world
          = [.fetched record.address (.ok ⟨1000, 7⟩), .submitted submission (.ok "accepted")]
        ∧ submission.nonce = 7
        ∧ (send (ledgerAt .epoch)
            "0x00112233445566778899aabbccddeeff00112233445566778899aabbccddeeff" 5 world).1
          = .ok receipt
        ∧ receipt.response = "accepted" ∧ receipt.transaction.toSubmission = some submission
        ∧ exchanges (ledgerAt .last)
            "0x00112233445566778899aabbccddeeff00112233445566778899aabbccddeeff" 5 world
          = [.fetched record.address (.ok ⟨1000, 7⟩)]
        ∧ (send (ledgerAt .last)
            "0x00112233445566778899aabbccddeeff00112233445566778899aabbccddeeff" 5 world).1
          = .error .locked := by
  obtain ⟨payee, hpayee⟩ : ∃ payee, Address.parse
      "0x00112233445566778899aabbccddeeff00112233445566778899aabbccddeeff" = .ok payee :=
    ⟨_, rfl⟩
  obtain ⟨world, record, keypair, -, hsound, hnow, hunlocked, hover⟩ := exists_unlocked
  have hstart : Unlocked world.store.slots world.now record keypair := by
    rw [hnow]
    exact hunlocked
  have hprepare := prepare_of_unlocked hsound hstart hpayee
  -- Told at once.
  have hearly := transfer_is_orderly (ledgerAt .epoch) (ledgerAt_keepsStore .epoch)
    "0x00112233445566778899aabbccddeeff00112233445566778899aabbccddeeff" 5 world
  obtain ⟨submission, answer, hsaid⟩ :=
    hearly.submits hsound record keypair _ _ _ hprepare rfl hunlocked
  obtain ⟨first, -, account, between, later, given, tx, hfirst, hfetch, -, hsign, hsubmission,
    htaken, hresult⟩ := hearly.of_submitted submission answer (by rw [hsaid]; simp)
  have haccount : account = ⟨1000, 7⟩ := by
    cases hfetch
    rfl
  have hanswer : answer = .ok "accepted" := by
    cases htaken
    rfl
  subst haccount hanswer
  obtain ⟨payer, key, -, htransfers⟩ := signTransfer_eq_ok hsign
  obtain ⟨-, hnonce⟩ := toSubmission_eq_some hsubmission
  -- Told too late.
  have hlate := transfer_is_orderly (ledgerAt .last) (ledgerAt_keepsStore .last)
    "0x00112233445566778899aabbccddeeff00112233445566778899aabbccddeeff" 5 world
  obtain ⟨hlocked, hstopped⟩ := hlate.stops hsound record _ _ _ hprepare rfl hover
  exact ⟨world, record, submission, ⟨tx, "accepted"⟩, hsaid, hnonce.trans htransfers.nonce,
    hresult, rfl, hsubmission, hstopped, hlocked⟩

end Custody.Wallet
