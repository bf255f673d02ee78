import Custody.Proofs.Transfer
import Custody.Proofs.Wallet.Outcome
import Custody.Proofs.Wallet.Unlocked

/-!
# `Custody.Proofs.Wallet.Release`: what leaves the wallet

A signature, the private key and the recovery phrase leave the wallet through `signTransfer`,
`exportKey` and `exportPhrase`. `released_iff_unlocked` says when they do, for a store with any
texts in it. On any store, failing or not, whatever was given out was given out by an unlocked
wallet, and is what was asked for. On a store that does not fail, an unlocked wallet signs every
transfer to a receiver that can be read and answers an export as the password opens the record,
and none of this writes. A locked wallet refuses all three, and has no session afterwards. Where
there is no record that loads, the reason is told and nothing is touched.

A wallet checks each signature before it gives it out. The check never fails
(`signed_verifies`).
-/

set_option autoImplicit false

namespace Custody

open Time Command
open Store (Slots walletKey sessionKey)

namespace Wallet

/-- The wallet's own check never fails. -/
theorem signed_verifies (keypair : Keypair) (payee : PublicKey) (amount nonce : UInt64) :
    (signed keypair payee amount nonce).verifies = true :=
  Transaction.verifies_sign rfl

/-- A transfer from the wallet of the record: to the receiver that was typed, with this amount
and this nonce, and with a signature of the wallet's key. -/
structure Transfers (record : Record) (typed : String) (amount nonce : UInt64)
    (tx : Transaction) : Prop where
  sender : tx.sender.toHex = record.publicKey
  receiver : Address.parse typed = .ok tx.receiver
  nonce : tx.nonce = nonce
  action : tx.action = .nativeTransfer amount
  verifies : tx.verifies = true

variable {world after : World} {record : Record} {keypair : Keypair} {typed : String}
  {amount nonce : UInt64}

/-- What is signed with the key of the record is a transfer from it. -/
theorem transfers_signed (hshown : keypair.publicKey.toHex = record.publicKey) {payee : PublicKey}
    (hpayee : Address.parse typed = .ok payee) :
    Transfers record typed amount nonce (signed keypair payee amount nonce) where
  sender := hshown
  receiver := hpayee
  nonce := rfl
  action := rfl
  verifies := signed_verifies keypair payee amount nonce

/-- A key at hand signs for every address that can be read. -/
theorem signWith_of_parse {payee : PublicKey} (hpayee : Address.parse typed = .ok payee) :
    (signWith keypair typed amount nonce).runIn world
      = (.ok (signed keypair payee amount nonce), world) := by
  unfold signWith receiver
  rw [hpayee]
  simp only
  rw [runIn_bind, runIn_pure]
  simp only
  rw [if_pos (signed_verifies keypair payee amount nonce), runIn_pure]

/-- What a key at hand has signed is for an address that can be read. -/
theorem signWith_eq_ok {tx : Transaction}
    (h : (signWith keypair typed amount nonce).runIn world = (.ok tx, after)) :
    ∃ payee, Address.parse typed = .ok payee ∧ tx = signed keypair payee amount nonce := by
  cases hparse : Address.parse typed with
  | error fault =>
      unfold signWith receiver at h
      rw [hparse, runIn_bind, runIn_fail] at h
      cases h
  | ok payee =>
      rw [signWith_of_parse hparse] at h
      -- The check that stands between is never the reason for a failure.
      injection h with hresult
      exact ⟨payee, rfl, (Except.ok.inj hresult).symm⟩

/-! ### What was given out -/

/-- A transfer that was signed was signed in an unlocked wallet. -/
theorem signTransfer_eq_ok {tx : Transaction}
    (h : (signTransfer typed amount nonce).runIn world = (.ok tx, after)) :
    ∃ record keypair, Unlocked world.store.slots world.now record keypair
      ∧ Transfers record typed amount nonce tx := by
  rw [signTransfer_eq] at h
  obtain ⟨record, keypair, hunlocked, hsign⟩ := withKey_eq_ok h
  obtain ⟨payee, hpayee, rfl⟩ := signWith_eq_ok hsign
  exact ⟨record, keypair, hunlocked, transfers_signed hunlocked.shown hpayee⟩

/-- A key that was exported was opened with the password in an unlocked wallet. -/
theorem exportKey_eq_ok {password hex : String}
    (h : (exportKey password).runIn world = (.ok hex, after)) :
    ∃ record keypair, Unlocked world.store.slots world.now record keypair
      ∧ ∃ found, record.openKeypair password = .ok found ∧ hex = found.secretHex
        ∧ found.publicKey.toHex = record.publicKey := by
  rw [exportKey_eq] at h
  obtain ⟨record, keypair, hunlocked, hrest⟩ := withKey_eq_ok h
  obtain ⟨found, between, hopen, hrest⟩ := runIn_bind_eq_ok.mp hrest
  rw [runIn_answer] at hopen
  injection hopen with hopen hbetween
  cases hrest
  exact ⟨record, keypair, hunlocked, found, hopen, rfl, Record.publicKey_of_openKeypair hopen⟩

/-- A phrase that was exported was opened with the password in an unlocked wallet. -/
theorem exportPhrase_eq_ok {password phrase : String}
    (h : (exportPhrase password).runIn world = (.ok phrase, after)) :
    ∃ record keypair, Unlocked world.store.slots world.now record keypair
      ∧ record.openPhrase password = .ok phrase := by
  rw [exportPhrase_eq] at h
  obtain ⟨record, keypair, hunlocked, hrest⟩ := withKey_eq_ok h
  rw [runIn_answer] at hrest
  injection hrest with hopen hafter
  exact ⟨record, keypair, hunlocked, hopen⟩

/-! ### What an unlocked wallet answers -/

/-- In an unlocked wallet a transfer to a readable address is signed. -/
theorem signTransfer_of_unlocked (hsound : world.Sound)
    (h : Unlocked world.store.slots world.now record keypair) {payee : PublicKey}
    (hpayee : Address.parse typed = .ok payee) :
    (signTransfer typed amount nonce).runIn world
      = (.ok (signed keypair payee amount nonce), world.read.read) := by
  rw [signTransfer_eq, withKey_of_unlocked hsound h, signWith_of_parse hpayee]

/-! ### What is refused -/

/-- Signing and both exports fail with this error, whatever they are asked for, and leave these
slots. -/
structure Refuses (world : World) (e : WalletError) (slots : Slots) : Prop where
  signTransfer (typed : String) (amount nonce : UInt64) :
    ∃ after, (Wallet.signTransfer typed amount nonce).runIn world = (.error e, after)
      ∧ after.store.slots = slots
  exportKey (password : String) :
    ∃ after, (Wallet.exportKey password).runIn world = (.error e, after)
      ∧ after.store.slots = slots
  exportPhrase (password : String) :
    ∃ after, (Wallet.exportPhrase password).runIn world = (.error e, after)
      ∧ after.store.slots = slots

/-- All three ask for the key first. -/
theorem refuses_of_withKey {e : WalletError} {slots : Slots}
    (h : ∀ {α : Type} (next : Record → Keypair → Command α),
      ∃ after, (withKey next).runIn world = (.error e, after) ∧ after.store.slots = slots) :
    Refuses world e slots where
  signTransfer typed amount nonce := h fun _ keypair => signWith keypair typed amount nonce
  exportKey _ := h _
  exportPhrase _ := h _

/-- A locked wallet refuses, and its session is removed. -/
theorem refuses_of_locked (hsound : world.Sound) (hreadable : ReadableSession world.store.slots)
    (hkeeps : world.store.slots.KeepsRecord record)
    (h : ∀ keypair, ¬ Unlocked world.store.slots world.now record keypair) :
    Refuses world .locked (world.store.slots.erase sessionKey) :=
  refuses_of_withKey fun _ => withKey_of_locked hsound hreadable hkeeps h

/-- Without a wallet everything is refused, and nothing changes. -/
theorem refuses_of_none (hsound : world.Sound)
    (h : world.store.slots.lookup? walletKey = none) :
    Refuses world .noWallet world.store.slots :=
  refuses_of_withKey fun _ => ⟨_, withKey_of_none hsound h, rfl⟩

/-- A text that is no record is refused for what it is, and nothing changes. -/
theorem refuses_of_undecodable (hsound : world.Sound) {text : String} {e : WalletError}
    (hslot : world.store.slots.lookup? walletKey = some (.text text))
    (hdecode : Keystore.decode text = .error e) :
    Refuses world e world.store.slots :=
  refuses_of_withKey fun _ => ⟨_, withKey_of_undecodable hsound hslot hdecode, rfl⟩

/-! ### When anything leaves the wallet -/

/-- What leaves the wallet, and when. First the three commands on any store: what they give out
is what an unlocked wallet was asked for. Then, on a store that does not fail, what they answer
in each state of the wallet: unlocked, locked, without a record, and with one that does not
load. -/
theorem released_iff_unlocked (world : World) :
    (∀ typed amount nonce tx after,
        (signTransfer typed amount nonce).runIn world = (.ok tx, after) →
          ∃ record keypair, Unlocked world.store.slots world.now record keypair
            ∧ Transfers record typed amount nonce tx)
      ∧ (∀ password hex after, (exportKey password).runIn world = (.ok hex, after) →
          ∃ record keypair, Unlocked world.store.slots world.now record keypair
            ∧ ∃ found, record.openKeypair password = .ok found ∧ hex = found.secretHex
              ∧ found.publicKey.toHex = record.publicKey)
      ∧ (∀ password phrase after, (exportPhrase password).runIn world = (.ok phrase, after) →
          ∃ record keypair, Unlocked world.store.slots world.now record keypair
            ∧ record.openPhrase password = .ok phrase)
      ∧ (world.Sound →
          (∀ record keypair, Unlocked world.store.slots world.now record keypair →
              (∀ typed payee amount nonce, Address.parse typed = .ok payee →
                  ∃ tx, (signTransfer typed amount nonce).runIn world
                      = (.ok tx, world.read.read)
                    ∧ Transfers record typed amount nonce tx)
                ∧ (∀ password, (exportKey password).runIn world
                    = ((record.openKeypair password).map Keypair.secretHex, world.read.read))
                ∧ (∀ password, (exportPhrase password).runIn world
                    = (record.openPhrase password, world.read.read)))
            ∧ (ReadableSession world.store.slots →
                ∀ record, world.store.slots.KeepsRecord record →
                  (∀ keypair, ¬ Unlocked world.store.slots world.now record keypair) →
                    Refuses world .locked (world.store.slots.erase sessionKey))
            ∧ (world.store.slots.lookup? walletKey = none →
                Refuses world .noWallet world.store.slots)
            ∧ (∀ text e, world.store.slots.lookup? walletKey = some (.text text) →
                Keystore.decode text = .error e → Refuses world e world.store.slots)) := by
  refine ⟨?_, ?_, ?_, ?_⟩
  · intro typed amount nonce tx after h
    exact signTransfer_eq_ok h
  · intro password hex after h
    exact exportKey_eq_ok h
  · intro password phrase after h
    exact exportPhrase_eq_ok h
  · intro hsound
    refine ⟨?_, ?_, ?_, ?_⟩
    · intro record keypair hunlocked
      refine ⟨?_, exportKey_of_unlocked hsound hunlocked,
        exportPhrase_of_unlocked hsound hunlocked⟩
      intro typed payee amount nonce hpayee
      exact ⟨_, signTransfer_of_unlocked hsound hunlocked hpayee,
        transfers_signed hunlocked.shown hpayee⟩
    · intro hreadable record hkeeps hlocked
      exact refuses_of_locked hsound hreadable hkeeps hlocked
    · intro hnone
      exact refuses_of_none hsound hnone
    · intro text e hslot hdecode
      exact refuses_of_undecodable hsound hslot hdecode

/-! ### A wallet that was just put in place -/

section
variable {settings : Settings} {now later : Instant} {slots : Slots}

/-- A session that was just started can be read. -/
theorem readable_installed (hshows : record.Shows keypair) :
    ReadableSession (installed settings keypair record now slots) := by
  obtain ⟨-, hsession⟩ := keeps_installed keypair hshows.version now slots
  exact readableSession_of_keeps hsession

/-- A wallet that was put in place is unlocked until its session's time has come. -/
theorem unlocked_installed (hshows : record.Shows keypair)
    (htime : later.before (Session.keptUntil settings.session now) = true) :
    Unlocked (installed settings keypair record now slots) later record.asRead keypair := by
  obtain ⟨hrecord, hsession⟩ := keeps_installed keypair hshows.version now slots
  exact ⟨hrecord, ⟨_, hsession, htime, Keypair.ofHex_secretHex keypair⟩,
    hshows.asRead.publicKey.symm⟩

/-- When its session's time has come, no key unlocks it. -/
theorem not_unlocked_installed (hshows : record.Shows keypair)
    (htime : later.before (Session.keptUntil settings.session now) = false) (other : Keypair) :
    ¬ Unlocked (installed settings keypair record now slots) later record.asRead other := by
  intro h
  obtain ⟨-, hsession⟩ := keeps_installed keypair hshows.version now slots
  obtain ⟨session, hfound, hlive, -⟩ := h.live
  rw [hsession.unique hfound] at hlive
  exact Bool.false_ne_true (htime.symm.trans hlive)

end

/-- A wallet that was just made signs a transfer, and refuses when its time has come. -/
theorem released_iff_unlocked_created :
    ∃ (world : World) (record : Record) (tx : Transaction) (later : World),
      (signTransfer "0x00112233445566778899aabbccddeeff00112233445566778899aabbccddeeff" 5 0).runIn
          world = (.ok tx, world.read.read)
        ∧ world.store.slots.KeepsRecord record ∧ tx.sender.toHex = record.publicKey
        ∧ tx.verifies = true ∧ later.store.slots = world.store.slots
        ∧ Refuses later .locked (world.store.slots.erase sessionKey) := by
  let settings : Settings := ⟨.ofSeconds 1800, .light⟩
  let start : World := ⟨Store.empty, .epoch, .ofBytes [7]⟩
  obtain ⟨created, after, hcreate⟩ := exists_created
  obtain ⟨entropy, phrase, record, -, -, -, hslots, hshows, -⟩ := create_eq_ok hcreate
  obtain ⟨payee, hpayee⟩ : ∃ payee, Address.parse
      "0x00112233445566778899aabbccddeeff00112233445566778899aabbccddeeff" = .ok payee :=
    ⟨_, rfl⟩
  have hbefore : Instant.epoch.before (Session.keptUntil settings.session .epoch) = true := by
    decide +kernel
  have hunlocked : Unlocked (after.calm .epoch).store.slots .epoch record.asRead
      phrase.keypair := by
    rw [World.calm_slots, hslots]
    exact unlocked_installed hshows hbefore
  obtain ⟨-, -, -, hanswers⟩ := released_iff_unlocked (after.calm .epoch)
  obtain ⟨hunlocks, -⟩ := hanswers (World.calm_sound after .epoch)
  obtain ⟨hsigns, -⟩ := hunlocks record.asRead phrase.keypair hunlocked
  obtain ⟨tx, hrun, htransfers⟩ := hsigns _ payee 5 0 hpayee
  -- The same slots when the session's time has come.
  obtain ⟨late, hlate⟩ : ∃ late : Instant,
      late.before (Session.keptUntil settings.session .epoch) = false :=
    ⟨.last, by decide +kernel⟩
  have hlocked : ∀ other, ¬ Unlocked (after.calm late).store.slots late record.asRead other := by
    rw [World.calm_slots, hslots]
    exact not_unlocked_installed hshows hlate
  have hreadable : ReadableSession (after.calm late).store.slots := by
    rw [World.calm_slots, hslots]
    exact readable_installed hshows
  obtain ⟨-, -, -, hanswers⟩ := released_iff_unlocked (after.calm late)
  obtain ⟨-, hrefuses, -⟩ := hanswers (World.calm_sound after late)
  exact ⟨after.calm .epoch, record.asRead, tx, after.calm late, hrun, hunlocked.kept,
    htransfers.sender, htransfers.verifies, rfl, hrefuses hreadable _ hunlocked.kept hlocked⟩

end Wallet

end Custody
