import Custody.Proofs.Phrase.Fresh
import Custody.Proofs.Wallet.Exchange

/-!
# `Custody.Proofs.Wallet.Sender`: for whom a transfer is signed

A transfer looks up the account of the record that it found before, and is signed by the wallet
that is there afterwards. While the ledger is asked, other calls may have put another wallet in
place, and nothing holds the second record against the first. So the nonce is that of the
account that was looked up, and the sender is whoever owns the wallet by then.

`addressAfter` follows the address of the wallet through the calls of that time, and
`submission_of_lookup` says that it is the sender's. It is the address that was looked up if no
wallet was made or restored meanwhile.
-/

set_option autoImplicit false

namespace Custody.Wallet

open Time Command
open Store (Slots walletKey sessionKey)

/-! ### The address of the wallet, call after call -/

/-- The address of the wallet that a call has put in place, if it has. -/
def Event.placed? (event : Event) : Option String :=
  match event.call, event.answer with
  | .create _, .ok (.created created) => some created.summary.address
  | .restore _ _, .ok (.summary summary) => some summary.address
  | _, _ => none

/-- The address of the wallet after some events, if there still is one. -/
def addressAfter (address : String) (events : List Event) : String :=
  events.foldl (fun address event => event.placed?.getD address) address

/-- The address after one more event is the one that it has put in place, or the one before. -/
theorem addressAfter_append (address : String) (events : List Event) (event : Event) :
    addressAfter address (events ++ [event])
      = event.placed?.getD (addressAfter address events) := by
  rw [addressAfter, List.foldl_append]
  rfl

/-- Where no wallet was put in place, the address is the same. -/
theorem addressAfter_of_none {address : String} {events : List Event}
    (h : ∀ event ∈ events, event.placed? = none) : addressAfter address events = address := by
  induction events with
  | nil => rfl
  | cons event events ih =>
      rw [addressAfter, List.foldl_cons, h event List.mem_cons_self]
      exact ih fun more hmore => h more (List.mem_cons_of_mem _ hmore)

/-- If there is a wallet, it has this address. -/
def Addressed (address : String) (slots : Slots) : Prop :=
  ∀ record, slots.KeepsRecord record → record.address = address

variable {settings : Settings} {world : World} {address : String}

/-- The address depends on the record only. -/
theorem Addressed.congr {slots other : Slots} (h : Addressed address slots)
    (hslot : other.lookup? walletKey = slots.lookup? walletKey) : Addressed address other :=
  fun record hkeeps => h record (hkeeps.congr hslot.symm)

/-- A record that was put in place is the one that is kept. -/
theorem addressed_of_keeps {slots : Slots} {record : Record} (h : slots.KeepsRecord record) :
    Addressed record.address slots :=
  fun found hfound => by rw [h.unique hfound]

/-- A record shows the same address as it reads. -/
theorem addressed_of_asRead {slots : Slots} {record : Record}
    (h : slots.KeepsRecord record.asRead) : Addressed record.address slots := by
  have hread : Addressed record.asRead.address slots := addressed_of_keeps h
  exact hread

section
variable (hsound : world.Sound) (h : Addressed address world.store.slots)

include hsound h

/-- A wallet that was made has the address that was answered. -/
theorem Addressed.create (password : String) :
    Addressed (((Call.create password).event settings world).placed?.getD address)
      ((Call.create password).event settings world).after := by
  cases hrun : (Wallet.create settings password).runIn world with
  | mk result after =>
      rw [Call.event_of_run .created rfl hrun]
      cases result with
      | error e => exact h.congr (by rw [create_eq_error hsound hrun])
      | ok created =>
          obtain ⟨-, phrase, record, -, -, rfl, hslots, hshows, -⟩ := create_eq_ok hrun
          refine addressed_of_asRead ?_
          rw [hslots]
          exact (keeps_installed phrase.keypair hshows.version _ _).1

/-- A wallet that was restored has the address that was answered. -/
theorem Addressed.restore (typed password : String) :
    Addressed (((Call.restore typed password).event settings world).placed?.getD address)
      ((Call.restore typed password).event settings world).after := by
  cases hrun : (Wallet.restore settings typed password).runIn world with
  | mk result after =>
      rw [Call.event_of_run .summary rfl hrun]
      cases result with
      | error e => exact h.congr (by rw [restore_eq_error hsound hrun])
      | ok summary =>
          obtain ⟨phrase, record, -, rfl, hslots, hshows, -⟩ := restore_eq_ok hrun
          refine addressed_of_asRead ?_
          rw [hslots]
          exact (keeps_installed phrase.keypair hshows.version _ _).1

/-- A record that was sealed again has the address of its key, and so has the old one. -/
theorem Addressed.changePassword (hconsistent : Consistent world.store.slots) (old new : String) :
    Addressed address ((Call.changePassword old new).event settings world).after := by
  cases hrun : (Wallet.changePassword settings old new).runIn world with
  | mk result after =>
      rw [Call.event_of_run (fun _ => .done) rfl hrun]
      cases result with
      | error e => exact h.congr (by rw [changePassword_eq_error hsound hrun])
      | ok u =>
          obtain ⟨record, resealed, keypair, phrase, hkeeps, hopens, hshows, -, hslots⟩ :=
            changePassword_eq_ok hrun
          have hsame : resealed.address = address := by
            calc resealed.address = keypair.publicKey.toHex := hshows.address
              _ = record.publicKey := Record.publicKey_of_openKeypair hopens.1
              _ = record.address := (hconsistent.address hkeeps).symm
              _ = address := h record hkeeps
          rw [← hsame]
          refine addressed_of_asRead ?_
          rw [hslots]
          exact Store.Slots.keepsRecord_insert _ hshows.version

end

/-- Where there is no wallet, it has any address. -/
theorem addressed_of_none {slots : Slots} (h : slots.lookup? walletKey = none) :
    Addressed address slots :=
  fun _ hkeeps => absurd h hkeeps.lookup?_ne_none

/-- Whatever is called, the wallet has the address that the event tells. -/
theorem Addressed.call (hsound : world.Sound) (hconsistent : Consistent world.store.slots)
    (h : Addressed address world.store.slots) (call : Call) :
    Addressed ((call.event settings world).placed?.getD address)
      (call.event settings world).after := by
  -- Most calls leave the record alone.
  have hother : walletKey ∉ call.keys →
      Addressed address (call.event settings world).after := by
    intro hkeys
    obtain ⟨hslots, hwrites, -⟩ := call.writes_spec settings world hconsistent
    refine h.congr ?_
    show (call.outcome settings world).2.store.slots.lookup? walletKey = _
    rw [hslots]
    exact lookup?_replay_of_keys hkeys hwrites
  cases call with
  | create password => exact h.create hsound password
  | restore typed password => exact h.restore hsound typed password
  | changePassword old new => exact h.changePassword hsound hconsistent old new
  | delete =>
      rw [Call.event_of_run (fun _ => .done) rfl (delete_of_sound hsound)]
      exact addressed_of_none Store.Slots.lookup?_erase_self
  | _ => exact hother fun hmem => Store.walletKey_ne_sessionKey (List.mem_singleton.mp hmem)

/-- Along a run, the wallet has the address that the events tell. -/
theorem Run.addressed {start : World} {during : List Event}
    (hstart : Consistent start.store.slots) (h : Addressed address start.store.slots)
    (hrun : Run settings start during world) :
    Consistent world.store.slots ∧ Addressed (addressAfter address during) world.store.slots := by
  induction hrun with
  | start => exact ⟨hstart, h⟩
  | call now call run ih =>
      obtain ⟨hconsistent, haddressed⟩ := ih
      rw [addressAfter_append]
      exact ⟨call.writes_end settings (World.calm _ now) hconsistent,
        haddressed.call (World.calm_sound _ now) hconsistent call⟩

/-! ### The sender of a transfer -/

/-- What is submitted, in a store that only the wallet has written to. The one lookup before it
was for the account of the wallet that was there, and the nonce is the one that it has told. The
sender is the wallet that is there after the lookup: whatever calls of the wallet explain the
world that the lookup has left, it is the wallet whose address they lead to. So it is the
account that was looked up if they put no other wallet in place. -/
theorem submission_of_lookup {world : World} (hreached : Reached world.store.slots)
    {client : Client Id} {typed : String} {amount : UInt64} {submission : Submission}
    {answer : Except Ledger.Error String}
    (hsent : .submitted submission answer ∈ exchanges client typed amount world) :
    ∃ (record : Record) (account : Ledger.Account) (sender : PublicKey) (prepared fetched : World),
      world.store.slots.KeepsRecord record
        ∧ (prepare typed).runIn world = (.ok record, prepared)
        ∧ client.fetch record.address prepared = (.ok account, fetched)
        ∧ exchanges client typed amount world
          = [.fetched record.address (.ok account), .submitted submission answer]
        ∧ submission.nonce = account.nonce ∧ submission.sender = sender.bytes.bytes
        ∧ ∀ settings during later now, Run settings prepared during later →
            fetched = later.calm now →
            sender.toHex = addressAfter record.address during
              ∧ ((∀ event ∈ during, event.placed? = none) → sender.toHex = record.address) := by
  obtain ⟨prepared, fetched, signed, record, account, tx, hprepare, hfetch, hsign, hexchanges⟩ :=
    runs_of_submitted hsent
  obtain ⟨keypair, hunlocked⟩ := prepare_eq_ok hprepare
  have hprepared : prepared.store.slots = world.store.slots := (prepare_follows hprepare).slots
  obtain ⟨payer, payerKey, hpayer, htransfers, hsubmission⟩ := signSubmission_eq_ok hsign
  obtain ⟨hsender, hnonce⟩ := toSubmission_eq_some hsubmission
  refine ⟨record, account, tx.sender, prepared, fetched, hunlocked.kept, hprepare, hfetch,
    hexchanges, by rw [hnonce, htransfers.nonce], hsender, ?_⟩
  intro settings during later now hduring hfetched
  -- The wallet that signs has the address that the calls in between lead to.
  have hconsistent : Consistent prepared.store.slots := by
    rw [hprepared]
    exact hreached.consistent
  have haddressed : Addressed record.address prepared.store.slots := by
    rw [hprepared]
    exact addressed_of_keeps hunlocked.kept
  obtain ⟨hlater, haddress⟩ := hduring.addressed hconsistent haddressed
  have hkept : later.store.slots.KeepsRecord payer := by
    have hkept := hpayer.kept
    rw [hfetched] at hkept
    exact hkept
  have hresult : tx.sender.toHex = addressAfter record.address during := by
    calc tx.sender.toHex = payer.publicKey := htransfers.sender
      _ = payer.address := (hlater.address hkept).symm
      _ = addressAfter record.address during := haddress payer hkept
  exact ⟨hresult, fun hnone => by rw [hresult, addressAfter_of_none hnone]⟩

/-- A ledger that takes so long to tell an account that another wallet is restored meanwhile. -/
def slowLedger (settings : Settings) (typed password : String) : Client Id where
  fetch _ world :=
    (.ok ⟨1000, 7⟩, ((restore settings typed password).runIn (world.calm .epoch)).2.calm .epoch)
  submit _ world := (.ok "accepted", world)

/-- The slow ledger answers from a world in which the other wallet is in place. -/
theorem fetch_slowLedger {settings : Settings} {typed password address : String}
    {summary : Summary} {after : World}
    (h : (restore settings typed password).runIn (world.calm .epoch) = (.ok summary, after)) :
    (slowLedger settings typed password).fetch address world
      = (.ok ⟨1000, 7⟩, after.calm .epoch) := by
  unfold slowLedger
  simp only [h]

/-- A phrase restores a wallet, which is unlocked then. -/
theorem unlocked_of_restored (world : World) {typed : String} {phrase : Phrase}
    (hphrase : Phrase.parse typed = .ok phrase) :
    ∃ (summary : Summary) (after : World) (record : Record),
      (restore ⟨.ofSeconds 1800, .light⟩ typed "pw").runIn (world.calm .epoch)
          = (.ok summary, after)
        ∧ summary.address = record.address
        ∧ Unlocked (after.calm .epoch).store.slots .epoch record phrase.keypair := by
  let settings : Settings := ⟨.ofSeconds 1800, .light⟩
  have hcost : settings.cost.Sealable := by decide
  have hpassword : "pw".isEmpty = false := by decide
  obtain ⟨summary, after, hrestore⟩ :=
    restore_of_sound (World.calm_sound world .epoch) hcost hphrase hpassword
  obtain ⟨found, record, hfound, rfl, hslots, hshows, -⟩ := restore_eq_ok hrestore
  obtain rfl : found = phrase := Except.ok.inj (hfound.symm.trans hphrase)
  have hbefore : Instant.epoch.before (Session.keptUntil settings.session .epoch) = true := by
    decide +kernel
  refine ⟨_, after, record.asRead, hrestore, rfl, ?_⟩
  rw [World.calm_slots, hslots]
  exact unlocked_installed hshows hbefore

/-- With this ledger a transfer is submitted all the same. -/
theorem exchanges_slowLedger {record : Record} {keypair : Keypair} (hsound : world.Sound)
    (h : Unlocked world.store.slots world.now record keypair) {typed other : String}
    {payee : PublicKey} {phrase : Phrase} (hpayee : Address.parse typed = .ok payee)
    (hother : Phrase.parse other = .ok phrase) (amount : UInt64) :
    ∃ summary after submission,
      (restore ⟨.ofSeconds 1800, .light⟩ other "pw").runIn (world.read.read.calm .epoch)
          = (.ok summary, after)
        ∧ exchanges (slowLedger ⟨.ofSeconds 1800, .light⟩ other "pw") typed amount world
          = [.fetched record.address (.ok ⟨1000, 7⟩), .submitted submission (.ok "accepted")] := by
  obtain ⟨summary, after, made, hrestore, -, hunlocked⟩ :=
    unlocked_of_restored world.read.read hother
  obtain ⟨tx, submission, hsign⟩ : ∃ tx submission, (signSubmission typed amount 7).runIn
      (after.calm .epoch) = (.ok (tx, submission), (after.calm .epoch).read.read) :=
    signSubmission_of_unlocked (World.calm_sound after .epoch) hunlocked hpayee
  exact ⟨summary, after, submission, hrestore,
    exchanges_of_runs (prepare_of_unlocked hsound h hpayee) (fetch_slowLedger hrestore) hsign⟩

/-- There are two phrases: that of sixteen zeros, and that of sixteen bytes with all bits set. -/
theorem exists_phrases :
    ∃ own other : Phrase, Phrase.parse own.text = .ok own ∧ Phrase.parse other.text = .ok other
      ∧ own.text ≠ other.text := by
  let zeros : Bytes := List.replicate 16 0
  let ones : Bytes := List.replicate 16 255
  have hzeros : zeros.length = 4 * 4 := rfl
  have hones : ones.length = 4 * 4 := rfl
  refine ⟨.ofEntropy zeros, .ofEntropy ones, Phrase.parse_text_ofEntropy hzeros (by decide)
    (by decide), Phrase.parse_text_ofEntropy hones (by decide) (by decide), fun htext => ?_⟩
  have heq := Phrase.text_ofEntropy_inj hones hzeros (by decide) (by decide) htext
  revert heq
  decide

/-- A wallet is restored from one phrase, and while the ledger tells its account, another wallet
is restored from another phrase. The transfer has the nonce of the account that was looked up, and
the sender is the wallet of the other phrase. The phrases differ; that their keys do is left to be
computed. -/
theorem submission_of_lookup_replaced :
    ∃ (start made after : World) (own other : Phrase) (mine theirs : Summary)
      (account : Ledger.Account) (sender : PublicKey) (submission : Submission)
      (answer : Except Ledger.Error String),
      own.text ≠ other.text
        ∧ (restore ⟨.ofSeconds 1800, .light⟩ own.text "pw").runIn start = (.ok mine, made)
        ∧ exchanges (slowLedger ⟨.ofSeconds 1800, .light⟩ other.text "pw")
          "0x00112233445566778899aabbccddeeff00112233445566778899aabbccddeeff" 5 (made.calm .epoch)
          = [.fetched mine.address (.ok account), .submitted submission answer]
        ∧ (restore ⟨.ofSeconds 1800, .light⟩ other.text "pw").runIn
            ((made.calm .epoch).read.read.calm .epoch) = (.ok theirs, after)
        ∧ submission.nonce = account.nonce ∧ submission.sender = sender.bytes.bytes
        ∧ sender.toHex = theirs.address := by
  obtain ⟨payee, hpayee⟩ : ∃ payee, Address.parse
      "0x00112233445566778899aabbccddeeff00112233445566778899aabbccddeeff" = .ok payee :=
    ⟨_, rfl⟩
  let settings : Settings := ⟨.ofSeconds 1800, .light⟩
  obtain ⟨own, other, hown, hother, hne⟩ := exists_phrases
  let start : World := ⟨Store.empty, .epoch, .ofBytes [7]⟩
  obtain ⟨mine, made, record, hrestore, haddress, hunlocked⟩ := unlocked_of_restored start hown
  have hreached : Reached (made.calm .epoch).store.slots := by
    have houtcome : (Call.restore own.text "pw").outcome settings (start.calm .epoch)
        = (.ok (.summary mine), made) := Call.outcome_of_run .summary rfl hrestore
    have hcall := Reached.call settings (start.calm .epoch) (.restore own.text "pw") .empty
    rw [houtcome] at hcall
    exact hcall
  have hsound := World.calm_sound made .epoch
  obtain ⟨theirs, after, submission, htheirs, hexchanges⟩ :=
    exchanges_slowLedger hsound hunlocked hpayee hother 5
  have hsent : Exchange.submitted submission (.ok "accepted")
      ∈ exchanges (slowLedger settings other.text "pw")
        "0x00112233445566778899aabbccddeeff00112233445566778899aabbccddeeff" 5
        (made.calm .epoch) := by
    rw [hexchanges]
    exact List.mem_cons_of_mem _ List.mem_cons_self
  obtain ⟨found, account, sender, prepared, fetched, hkept, hprepare, hfetch, hsaid, hnonce,
    hsender, hduring⟩ := submission_of_lookup hreached hsent
  obtain rfl : record = found := hkept.unique hunlocked.kept
  obtain rfl : prepared = (made.calm .epoch).read.read := by
    rw [prepare_of_unlocked hsound hunlocked hpayee] at hprepare
    exact (Prod.mk.inj hprepare).2.symm
  -- The one call that was made meanwhile.
  have hstart : Run settings (made.calm .epoch).read.read [] (made.calm .epoch).read.read := .start
  have hrun := hstart.call .epoch (.restore other.text "pw")
  have hfetched : fetched = after.calm .epoch := by
    rw [fetch_slowLedger htheirs] at hfetch
    exact (Prod.mk.inj hfetch).2.symm
  let between : World := (made.calm .epoch).read.read.calm .epoch
  have houtcome : (Call.restore other.text "pw").outcome settings between
      = (.ok (.summary theirs), after) := Call.outcome_of_run .summary rfl htheirs
  have hevent : (Call.restore other.text "pw").event settings between
      = ⟨.restore other.text "pw", .epoch, .ok (.summary theirs), between.store.slots,
        after.store.slots⟩ := Call.event_of_run .summary rfl htheirs
  rw [houtcome] at hrun
  obtain ⟨hsigner, -⟩ := hduring _ _ _ .epoch hrun hfetched
  rw [hevent] at hsigner
  rw [← haddress] at hsaid
  exact ⟨_, made, after, _, _, mine, theirs, account, sender, submission, _, hne, hrestore, hsaid,
    htheirs, hnonce, hsender, hsigner⟩

end Custody.Wallet
