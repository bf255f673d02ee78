import Custody.Proofs.Wallet.Look
import Custody.Proofs.Text.Hex

/-!
# `Custody.Proofs.Wallet.Identity`: the identity that a wallet shows

A record says twice in the open whose it is, by its address and by its public key, and only one
of the two is ever held against the private key: `Record.openKeypair` and `unlockedKeypair` look
at the public key. So what `unlock` and `state` tell is right about the public key, for any text
that anybody may have put in the store, and right about the address exactly where the record's
address is its public key. `shown_identity` says this, and that a store that nobody but the
wallet has written to is such a place.

Elsewhere it may fail. `forged_address_is_shown` is a wallet whose record was given another
address. It unlocks, and shows that address as its own.
-/

set_option autoImplicit false

namespace Custody

open Time Command
open Store (Slots walletKey sessionKey)

/-- What is shown of a wallet: the record's two fields. The public key is the key pair's, and the
address is if the record holds together. -/
structure Displays (record : Record) (keypair : Keypair) (address publicKey : String) : Prop where
  key : publicKey = keypair.publicKey.toHex
  copied : address = record.address
  genuine_iff : address = keypair.publicKey.toHex ↔ record.address = record.publicKey

/-- A key pair with the record's public key makes the record's fields right but for the
address. -/
theorem Record.displays {record : Record} {keypair : Keypair}
    (h : keypair.publicKey.toHex = record.publicKey) :
    Displays record keypair record.address record.publicKey :=
  ⟨h.symm, rfl, by rw [h]⟩

/-- In a store that only the wallet has written to, the address that is shown is the key
pair's. -/
theorem Displays.address_of_reached {record : Record} {keypair : Keypair}
    {address publicKey : String} (h : Displays record keypair address publicKey) {slots : Slots}
    (hkeeps : slots.KeepsRecord record) (hreached : Wallet.Reached slots) :
    address = keypair.publicKey.toHex :=
  h.genuine_iff.mpr (hreached.consistent.address hkeeps)

namespace Wallet

variable {settings : Settings} {world after : World}

/-- An unlocked state is that of the record and of the live session, whose key is the
record's. -/
theorem state_eq_unlocked {address publicKey privateKey : String}
    (h : state.runIn world = (.ok (.unlocked address publicKey privateKey), after)) :
    ∃ record keypair, Unlocked world.store.slots world.now record keypair
      ∧ Keypair.ofHex privateKey = .ok keypair
      ∧ address = record.address ∧ publicKey = record.publicKey := by
  unfold state at h
  obtain ⟨found, between, hload, hrest⟩ := runIn_bind_eq_ok.mp h
  obtain ⟨rfl, hkeeps⟩ := Keystore.load_eq_ok hload
  cases found with
  | none =>
      -- Without a record the state is absent, whether a session was removed or not.
      obtain ⟨found, between, -, hrest⟩ := runIn_bind_eq_ok.mp hrest
      split at hrest
      · obtain ⟨u, between, -, hpure⟩ := runIn_bind_eq_ok.mp hrest
        cases hpure
      · cases hrest
  | some record =>
      obtain ⟨found, between, hlive, hrest⟩ := runIn_bind_eq_ok.mp hrest
      cases found with
      | none => cases hrest
      | some session =>
          obtain ⟨rfl, hsession, htime⟩ := Session.live_eq_ok_some hlive
          cases hkey : Keypair.ofHex session.privateKey with
          | error e =>
              simp only [hkey] at hrest
              obtain ⟨u, between, -, hpure⟩ := runIn_bind_eq_ok.mp hrest
              cases hpure
          | ok keypair =>
              simp only [hkey] at hrest
              split at hrest
              · rename_i hshown
                cases hrest
                exact ⟨record, keypair, ⟨hkeeps, ⟨session, hsession, htime, hkey⟩, hshown⟩,
                  hkey, rfl, rfl⟩
              · obtain ⟨u, between, -, hpure⟩ := runIn_bind_eq_ok.mp hrest
                cases hpure

/-- The identity that a wallet shows, whatever is in the store. Where `unlock` succeeds, the
public key that it tells is that of the key pair that the password has opened and that the new
session holds; where `state` tells of an unlocked wallet, the public key is that of the private
key that it tells. The address is the one that the record gives. It is the key's own exactly
where the record gives its public key as its address, and so in every store that only the wallet
has written to. -/
theorem shown_identity (settings : Settings) (world : World) :
    (∀ password summary after,
        (unlock settings password).runIn world = (.ok summary, after) →
          ∃ record keypair, world.store.slots.KeepsRecord record
            ∧ record.openKeypair password = .ok keypair
            ∧ after.store.slots.KeepsSession (.begun settings.session keypair world.now)
            ∧ Displays record keypair summary.address summary.publicKey
            ∧ (Reached world.store.slots → summary.address = keypair.publicKey.toHex))
      ∧ ∀ address publicKey privateKey after,
        state.runIn world = (.ok (.unlocked address publicKey privateKey), after) →
          ∃ record keypair, world.store.slots.KeepsRecord record
            ∧ Keypair.ofHex privateKey = .ok keypair
            ∧ Displays record keypair address publicKey
            ∧ (Reached world.store.slots → address = keypair.publicKey.toHex) := by
  constructor
  · intro password summary after h
    obtain ⟨record, keypair, hkeeps, hopen, rfl, hslots⟩ := unlock_eq_ok h
    have hdisplays := Record.displays (Record.publicKey_of_openKeypair hopen)
    refine ⟨record, keypair, hkeeps, hopen, ?_, hdisplays, ?_⟩
    · rw [hslots]
      exact Session.keeps_begun _ _ _ _
    · exact hdisplays.address_of_reached hkeeps
  · intro address publicKey privateKey after h
    obtain ⟨record, keypair, hunlocked, hkey, rfl, rfl⟩ := state_eq_unlocked h
    have hdisplays := Record.displays hunlocked.shown
    exact ⟨record, keypair, hunlocked.kept, hkey, hdisplays,
      hdisplays.address_of_reached hunlocked.kept⟩

/-- A wallet that was just made shows the address of its key when it is unlocked. -/
theorem shown_identity_created :
    ∃ (world after : World) (record : Record) (keypair : Keypair) (summary : Summary),
      (unlock ⟨.ofSeconds 1800, .light⟩ "Correct-Horse-42").runIn world = (.ok summary, after)
        ∧ record.openKeypair "Correct-Horse-42" = .ok keypair
        ∧ summary.address = keypair.publicKey.toHex
        ∧ summary.publicKey = keypair.publicKey.toHex := by
  let settings : Settings := ⟨.ofSeconds 1800, .light⟩
  let start : World := World.calm ⟨Store.empty, .epoch, .ofBytes [7]⟩ .epoch
  obtain ⟨created, after, hcreate⟩ := exists_created
  obtain ⟨-, phrase, record, -, -, -, hslots, hshows, hopens⟩ := create_eq_ok hcreate
  have hreached : Reached (after.calm .epoch).store.slots := by
    have hcall := Reached.call settings start (.create "Correct-Horse-42") .empty
    rw [Call.outcome_of_run .created rfl hcreate] at hcall
    exact hcall
  have hkeeps : (after.calm .epoch).store.slots.KeepsRecord record.asRead := by
    rw [World.calm_slots, hslots]
    exact (keeps_installed phrase.keypair hshows.version _ _).1
  obtain ⟨summary, later, hunlock⟩ :=
    unlock_of_opens (World.calm_sound after .epoch) settings hkeeps hopens.asRead.1
  obtain ⟨hunlocks, -⟩ := shown_identity settings (after.calm .epoch)
  obtain ⟨found, keypair, -, hopen, -, hdisplays, haddress⟩ := hunlocks _ summary later hunlock
  exact ⟨_, later, found, keypair, summary, hunlock, hopen, haddress hreached,
    hdisplays.key⟩

/-! ### A record with another address -/

/-- A public key is not written as nothing. -/
theorem toHex_ne_empty (key : PublicKey) : key.toHex ≠ "" := by
  intro h
  have hread : Text.Hex.decode key.toHex = .ok key.bytes.bytes := Text.Hex.decode_encode _
  rw [h] at hread
  have hnone : key.bytes.bytes = [] := (Except.ok.inj hread).symm
  have hlength := Block.length_bytes key.bytes
  rw [hnone] at hlength
  cases hlength

/-- The record with another address. -/
def forged (record : Record) (address : String) : Record := { record with address }

/-- A record that was given another address opens as before. -/
theorem openKeypair_forged (record : Record) (address password : String) :
    (forged record address).openKeypair password = record.openKeypair password := rfl

/-- A session is live until the end that it was begun with. -/
theorem isLiveAt_begun {length : Span} {now later : Instant} (keypair : Keypair)
    (h : later.before (Session.keptUntil length now) = true) :
    (Session.begun length keypair now).isLiveAt later = true := h

/-- A wallet with a forged record: both what `unlock` and what `state` tell has the forged
address, which is not that of the key. -/
theorem forged_address_is_shown :
    ∃ (world after : World) (record : Record) (keypair : Keypair) (summary : Summary),
      world.store.slots.KeepsRecord record
        ∧ record.openKeypair "Correct-Horse-42" = .ok keypair
        ∧ (unlock ⟨.ofSeconds 1800, .light⟩ "Correct-Horse-42").runIn world = (.ok summary, after)
        ∧ summary.address ≠ keypair.publicKey.toHex
        ∧ ∃ address publicKey privateKey later,
          state.runIn (after.calm .epoch) = (.ok (.unlocked address publicKey privateKey), later)
            ∧ Keypair.ofHex privateKey = .ok keypair ∧ address ≠ keypair.publicKey.toHex := by
  let settings : Settings := ⟨.ofSeconds 1800, .light⟩
  obtain ⟨created, made, hcreate⟩ := exists_created
  obtain ⟨-, phrase, honest, -, -, -, -, hshows, hopens⟩ := create_eq_ok hcreate
  -- Somebody else stores the record that was made, under no address at all.
  let record := (forged honest "").asRead
  let start := made.calm .epoch
  let slots := start.store.slots.withRecord (forged honest "")
  let world : World := { start with store := { start.store with slots } }
  have hsound : world.Sound := World.calm_sound made .epoch
  have hkeeps : world.store.slots.KeepsRecord record :=
    Store.Slots.keepsRecord_insert _ hshows.version
  have hopen : record.openKeypair "Correct-Horse-42" = .ok phrase.keypair :=
    (openKeypair_forged honest "" _).trans hopens.1
  have hforged : record.address ≠ phrase.keypair.publicKey.toHex :=
    Ne.symm (toHex_ne_empty _)
  obtain ⟨summary, after, hunlock⟩ := unlock_of_opens hsound settings hkeeps hopen
  obtain ⟨found, keypair, hfound, hfoundopen, rfl, hslots⟩ := unlock_eq_ok hunlock
  obtain rfl := hkeeps.unique hfound
  obtain rfl := Except.ok.inj (hopen.symm.trans hfoundopen)
  -- The session that was started is still live a moment later.
  have hrecord : (after.calm .epoch).store.slots.KeepsRecord record := by
    rw [World.calm_slots, hslots]
    exact hkeeps.insert_session _
  have hsession : (after.calm .epoch).store.slots.KeepsSession
      (.begun settings.session phrase.keypair .epoch) := by
    rw [World.calm_slots, hslots]
    exact Session.keeps_begun _ _ _ _
  have htime : Instant.epoch.before (Session.keptUntil settings.session .epoch) = true := by
    decide +kernel
  have hstate := state_of_unlocked (World.calm_sound after .epoch) hrecord hsession
    (isLiveAt_begun phrase.keypair htime) (Keypair.ofHex_secretHex _) hshows.publicKey.symm
  refine ⟨world, after, record, phrase.keypair, _, hkeeps, hopen, hunlock, hforged,
    record.address, record.publicKey, phrase.keypair.secretHex, _, hstate, ?_, hforged⟩
  exact Keypair.ofHex_secretHex phrase.keypair

end Wallet

end Custody
