import Custody.Proofs.Sealed
import Custody.Proofs.Wallet.Kept
import Custody.Wallet

/-!
# `Custody.Proofs.Wallet.Unlocked`: when a wallet gives out its key

`Unlocked slots now record keypair` is the one condition on which the wallet's key can be used:
the record loads, the session reads and its time has not come, and the session's key is the
record's. `unlockedKeypair` gives out a key only on this condition (`unlockedKeypair_eq_ok`, on
any store). Where it holds, the key is given out and nothing is written
(`Unlocked.unlockedKeypair`); where it does not, the wallet is locked and there is no session
any more (`unlockedKeypair_of_locked`).
-/

set_option autoImplicit false

namespace Custody

open Time Command
open Store (Slots walletKey sessionKey)

namespace Session

variable {world after : World} {session : Session}

/-- A session that was found is kept and live. -/
theorem live_eq_ok_some (h : live.runIn world = (.ok (some session), after)) :
    after = world.read ∧ world.store.slots.KeepsSession session
      ∧ session.isLiveAt world.now = true := by
  unfold live at h
  obtain ⟨found, between, hget, hrest⟩ := runIn_bind_eq_ok.mp h
  obtain ⟨rfl, hslot⟩ := runIn_get_eq_ok hget
  cases found with
  | none => cases hrest
  | some text =>
      simp only at hrest
      cases hread : ofText? text with
      | none =>
          rw [hread] at hrest
          obtain ⟨u, between, -, hpure⟩ := runIn_bind_eq_ok.mp hrest
          cases hpure
      | some found =>
          rw [hread] at hrest
          obtain ⟨t, between, hnow, hrest⟩ := runIn_bind_eq_ok.mp hrest
          cases hnow
          split at hrest
          · rename_i hlive
            cases hrest
            exact ⟨rfl, ⟨text, hslot, hread⟩, hlive⟩
          · obtain ⟨u, between, -, hpure⟩ := runIn_bind_eq_ok.mp hrest
            cases hpure

/-- The secret that is given is that of a live session in the slots. -/
theorem secret_eq_ok {secret : String} (h : Session.secret.runIn world = (.ok secret, after)) :
    ∃ session, after = world.read ∧ world.store.slots.KeepsSession session
      ∧ session.isLiveAt world.now = true ∧ secret = session.privateKey := by
  unfold Session.secret at h
  obtain ⟨found, between, hlive, hrest⟩ := runIn_bind_eq_ok.mp h
  cases found with
  | none => cases hrest
  | some session =>
      obtain ⟨rfl, hkeeps, htime⟩ := live_eq_ok_some hlive
      cases hrest
      exact ⟨session, rfl, hkeeps, htime, rfl⟩

end Session

/-- The record loads, the session reads and is live, and its key is the record's. -/
structure Unlocked (slots : Slots) (now : Instant) (record : Record) (keypair : Keypair) :
    Prop where
  kept : slots.KeepsRecord record
  live : ∃ session, slots.KeepsSession session ∧ session.isLiveAt now = true
    ∧ Keypair.ofHex session.privateKey = .ok keypair
  shown : keypair.publicKey.toHex = record.publicKey

namespace Wallet

variable {world after : World} {record : Record} {keypair : Keypair}

/-- A key that was given out is that of the live session and of the record. -/
theorem unlockedKeypair_eq_ok (hkeeps : world.store.slots.KeepsRecord record)
    (h : (unlockedKeypair record).runIn world = (.ok keypair, after)) :
    after = world.read ∧ Unlocked world.store.slots world.now record keypair := by
  unfold unlockedKeypair at h
  obtain ⟨secret, between, hsecret, hrest⟩ := runIn_bind_eq_ok.mp h
  obtain ⟨session, rfl, hsession, hlive, rfl⟩ := Session.secret_eq_ok hsecret
  cases hkey : Keypair.ofHex session.privateKey with
  | error e =>
      rw [hkey] at hrest
      obtain ⟨u, between, -, hfail⟩ := runIn_bind_eq_ok.mp hrest
      cases hfail
  | ok found =>
      rw [hkey] at hrest
      simp only at hrest
      split at hrest
      · rename_i hshown
        cases hrest
        exact ⟨rfl, hkeeps, ⟨session, hsession, hlive, hkey⟩, hshown⟩
      · -- A session that does not fit is removed, and the command fails all the same.
        obtain ⟨u, between, -, hfail⟩ := runIn_bind_eq_ok.mp hrest
        cases hfail

/-- On a store that does not fail, the key of an unlocked wallet is given out. -/
theorem unlockedKeypair_of_unlocked (hsound : world.Sound)
    (h : Unlocked world.store.slots world.now record keypair) :
    (unlockedKeypair record).runIn world = (.ok keypair, world.read) := by
  obtain ⟨session, hsession, hlive, hkey⟩ := h.live
  unfold unlockedKeypair Session.secret
  rw [runIn_bind, runIn_bind, Session.live_of_keeps hsound hsession hlive]
  simp only [runIn_pure]
  rw [hkey]
  simp only [h.shown, if_true]
  rfl

/-- The slots hold a text under the session's key, or nothing. -/
def ReadableSession (slots : Slots) : Prop := slots.lookup? sessionKey ≠ some .blob

/-- A session that is kept can be read. -/
theorem readableSession_of_keeps {slots : Slots} {session : Session}
    (h : slots.KeepsSession session) : ReadableSession slots := by
  obtain ⟨text, hslot, -⟩ := h
  unfold ReadableSession
  rw [hslot]
  exact fun heq => by cases heq

/-- On a store that does not fail, looking for a live session finds it, or finds none and leaves
none behind. -/
theorem live_cases (hsound : world.Sound) (hreadable : ReadableSession world.store.slots) :
    (∃ session, world.store.slots.KeepsSession session ∧ session.isLiveAt world.now = true
        ∧ Session.live.runIn world = (.ok (some session), world.read))
      ∨ (∀ session, world.store.slots.KeepsSession session → session.isLiveAt world.now = false)
        ∧ ∃ after, Session.live.runIn world = (.ok none, after) ∧ after.Sound
          ∧ after.now = world.now
          ∧ after.store.slots = world.store.slots.erase sessionKey := by
  -- By what is under the key: nothing, a text that is no session, or a session, which is
  -- live or not.
  cases hslot : world.store.slots.lookup? sessionKey with
  | none =>
      refine .inr ⟨?_, world.read, Session.live_of_none hsound hslot, hsound, rfl, ?_⟩
      · intro session hkeeps
        exact absurd hslot hkeeps.lookup?_ne_none
      · exact (Store.Slots.erase_of_lookup?_eq_none hslot).symm
  | some slot =>
      cases slot with
      | blob => exact absurd hslot hreadable
      | text text =>
          cases hread : Session.ofText? text with
          | none =>
              refine .inr ⟨?_, _, Session.live_of_unreadable hsound hslot hread,
                hsound.read.wrote _, rfl, rfl⟩
              rintro session ⟨found, hfound, hsession⟩
              rw [hslot] at hfound
              cases hfound
              rw [hread] at hsession
              cases hsession
          | some session =>
              have hkeeps : world.store.slots.KeepsSession session := ⟨text, hslot, hread⟩
              cases hlive : session.isLiveAt world.now with
              | true =>
                  exact .inl ⟨session, hkeeps, hlive, Session.live_of_keeps hsound hkeeps hlive⟩
              | false =>
                  refine .inr ⟨?_, _, Session.live_of_expired hsound hkeeps hlive,
                    hsound.read.wrote _, rfl, rfl⟩
                  intro found hfound
                  rw [hkeeps.unique hfound]
                  exact hlive

/-- On a store that does not fail, the key of any other wallet is not given out, and the session
is removed if there is one. -/
theorem unlockedKeypair_of_locked (hsound : world.Sound)
    (hreadable : ReadableSession world.store.slots)
    (hkeeps : world.store.slots.KeepsRecord record)
    (h : ∀ keypair, ¬ Unlocked world.store.slots world.now record keypair) :
    ∃ after, (unlockedKeypair record).runIn world = (.error .locked, after)
      ∧ after.store.slots = world.store.slots.erase sessionKey := by
  unfold unlockedKeypair Session.secret
  rcases live_cases hsound hreadable with ⟨session, hsession, hlive, hrun⟩ | ⟨-, hlocked⟩
  · rw [runIn_bind, runIn_bind, hrun]
    simp only [runIn_pure]
    cases hkey : Keypair.ofHex session.privateKey with
    | error e =>
        simp only
        rw [runIn_bind, Session.finish_sound hsound.read]
        exact ⟨_, rfl, rfl⟩
    | ok keypair =>
        simp only
        split
        · rename_i hshown
          -- With a session of the record's key, the wallet would be unlocked.
          exact absurd ⟨hkeeps, ⟨session, hsession, hlive, hkey⟩, hshown⟩ (h keypair)
        · rw [runIn_bind, Session.finish_sound hsound.read]
          exact ⟨_, rfl, rfl⟩
  · obtain ⟨after, hrun, -, -, hslots⟩ := hlocked
    rw [runIn_bind, runIn_bind, hrun]
    exact ⟨after, rfl, hslots⟩

/-! ### Commands that use the key -/

/-- A command that asks for the record and for the key of the unlocked wallet first. -/
def withKey {α : Type} (next : Record → Keypair → Command α) : Command α := do
  let record ← Keystore.require
  let keypair ← unlockedKeypair record
  next record keypair

/-- The phrase is exported by opening the record, behind the check for the key. -/
theorem exportPhrase_eq (password : String) :
    exportPhrase password = withKey fun record _ => answer (record.openPhrase password) := rfl

/-- Behind the check for the key, the secret key is opened once more, with the password. -/
theorem exportKey_eq (password : String) :
    exportKey password = withKey fun record _ =>
      answer (record.openKeypair password) >>= fun keypair => pure keypair.secretHex := rfl

/-- The transfer of a key pair, signed. -/
def signed (keypair : Keypair) (payee : PublicKey) (amount nonce : UInt64) : Transaction :=
  Transaction.sign ⟨keypair.publicKey, payee, nonce, .nativeTransfer amount, none⟩ keypair

/-- Signs a transfer with a key, and checks it. -/
def signWith (keypair : Keypair) (typed : String) (amount nonce : UInt64) :
    Command Transaction := do
  let payee ← receiver typed
  if (signed keypair payee amount nonce).verifies then return signed keypair payee amount nonce
  else fail (.signing "signature does not verify against sender")

/-- A transfer is signed behind the check for the key. -/
theorem signTransfer_eq (typed : String) (amount nonce : UInt64) :
    signTransfer typed amount nonce = withKey fun _ keypair =>
      signWith keypair typed amount nonce := rfl

variable {α : Type} {next : Record → Keypair → Command α}

/-- What was done behind the check was done in an unlocked wallet. -/
theorem withKey_eq_ok {a : α} (h : (withKey next).runIn world = (.ok a, after)) :
    ∃ record keypair, Unlocked world.store.slots world.now record keypair
      ∧ (next record keypair).runIn world.read.read = (.ok a, after) := by
  unfold withKey at h
  obtain ⟨record, between, hrequire, hrest⟩ := runIn_bind_eq_ok.mp h
  obtain ⟨rfl, hkeeps⟩ := Keystore.require_eq_ok hrequire
  obtain ⟨keypair, between, hkey, hnext⟩ := runIn_bind_eq_ok.mp hrest
  have hread : world.read.store.slots.KeepsRecord record := hkeeps
  obtain ⟨rfl, hunlocked⟩ := unlockedKeypair_eq_ok hread hkey
  exact ⟨record, keypair, hunlocked, hnext⟩

/-- In an unlocked wallet, the check leads on to what is behind it. -/
theorem withKey_of_unlocked (hsound : world.Sound)
    (h : Unlocked world.store.slots world.now record keypair) :
    (withKey next).runIn world = (next record keypair).runIn world.read.read := by
  unfold withKey
  rw [runIn_bind, Keystore.require_of_keeps hsound h.kept]
  simp only
  rw [runIn_bind, unlockedKeypair_of_unlocked hsound.read h]

/-- In an unlocked wallet, exporting the key is opening the record. -/
theorem exportKey_of_unlocked (hsound : world.Sound)
    (h : Unlocked world.store.slots world.now record keypair) (password : String) :
    (exportKey password).runIn world
      = ((record.openKeypair password).map Keypair.secretHex, world.read.read) := by
  rw [exportKey_eq, withKey_of_unlocked hsound h, runIn_bind, runIn_answer]
  cases record.openKeypair password with
  | error e => rfl
  | ok found => rfl

/-- In an unlocked wallet, exporting the phrase is opening it. -/
theorem exportPhrase_of_unlocked (hsound : world.Sound)
    (h : Unlocked world.store.slots world.now record keypair) (password : String) :
    (exportPhrase password).runIn world = (record.openPhrase password, world.read.read) := by
  rw [exportPhrase_eq, withKey_of_unlocked hsound h, runIn_answer]

/-- In a locked wallet, the check refuses, and the session is removed. -/
theorem withKey_of_locked (hsound : world.Sound)
    (hreadable : ReadableSession world.store.slots)
    (hkeeps : world.store.slots.KeepsRecord record)
    (h : ∀ keypair, ¬ Unlocked world.store.slots world.now record keypair) :
    ∃ after, (withKey next).runIn world = (.error .locked, after)
      ∧ after.store.slots = world.store.slots.erase sessionKey := by
  obtain ⟨after, hlocked, hslots⟩ := unlockedKeypair_of_locked hsound.read hreadable hkeeps h
  unfold withKey
  rw [runIn_bind, Keystore.require_of_keeps hsound hkeeps]
  simp only
  rw [runIn_bind, hlocked]
  exact ⟨after, rfl, hslots⟩

/-- Without a record, nothing else is looked at. -/
theorem withKey_of_none (hsound : world.Sound)
    (h : world.store.slots.lookup? walletKey = none) :
    (withKey next).runIn world = (.error .noWallet, world.read) := by
  unfold withKey
  rw [runIn_bind, Keystore.require_of_none hsound h]

/-- Over a text that is no record, the check refuses for that reason. -/
theorem withKey_of_undecodable (hsound : world.Sound) {text : String} {e : WalletError}
    (hslot : world.store.slots.lookup? walletKey = some (.text text))
    (hdecode : Keystore.decode text = .error e) :
    (withKey next).runIn world = (.error e, world.read) := by
  unfold withKey
  rw [runIn_bind, Keystore.require_of_undecodable hsound hslot hdecode]

end Wallet

end Custody
