import Custody.Proofs.Sealed.Opening
import Custody.Proofs.Wallet.Outcome

/-!
# `Custody.Proofs.Wallet.NewPassword`: a change of password

A change of password opens both secrets of the record with the old password and seals them again
with the new one. `Wallet.changePassword_eq` is the whole of it as one equation: what becomes of
`Record.reseal`, and one write.

Whoever has written the record, the change succeeds exactly where the old password opens what
there is to open and the configured cost can be met. The new record differs from the old one in
its sealed secrets only (`Record.Resealed`), and what the old password opened there the new one
opens here.
-/

set_option autoImplicit false

namespace Custody

open Command
open Store (walletKey sessionKey)

namespace Record

variable {record resealed : Record} {old new : String} {cost : Kdf.Cost}

/-- A password that opens the secrets opens a phrase if there is one. -/
theorem Opens.hasPhrase {keypair : Keypair} {phrase : Option String}
    (h : record.Opens old keypair phrase) : record.hasPhrase = phrase.isSome := by
  obtain ⟨-, hphrase⟩ := h
  unfold Record.hasPhrase
  cases phrase with
  | none =>
      rw [openPhrase_eq_noPhrase_iff.mp hphrase]
      rfl
  | some text =>
      cases hkept : record.phrase with
      | none =>
          rw [openPhrase_eq_noPhrase_iff.mpr hkept] at hphrase
          cases hphrase
      | some sealed => rfl

/-- Both secrets open with a password if the private key does, and the phrase where there is
one. -/
theorem exists_opens_iff :
    (∃ keypair phrase, record.Opens old keypair phrase)
      ↔ (∃ keypair, record.openKeypair old = .ok keypair)
        ∧ (record.phrase = none ∨ ∃ phrase, record.openPhrase old = .ok phrase) := by
  constructor
  · rintro ⟨keypair, phrase, hkey, hphrase⟩
    refine ⟨⟨keypair, hkey⟩, ?_⟩
    cases phrase with
    | none => exact .inl (openPhrase_eq_noPhrase_iff.mp hphrase)
    | some phrase => exact .inr ⟨phrase, hphrase⟩
  · rintro ⟨⟨keypair, hkey⟩, habsent | ⟨phrase, hphrase⟩⟩
    · exact ⟨keypair, none, hkey, openPhrase_eq_noPhrase_iff.mpr habsent⟩
    · exact ⟨keypair, some phrase, hkey, hphrase⟩

/-- The record after a change of password: the same wallet, made at the same time, with both
secrets sealed at the configured cost. The new password opens what the old one opened. -/
structure Resealed (record resealed : Record) (old new : String) (cost : Kdf.Cost) : Prop where
  version : resealed.version = recordVersion
  createdAt : resealed.createdAt = record.createdAt
  publicKey : resealed.publicKey = record.publicKey
  address : resealed.address = record.publicKey
  hasPhrase : resealed.hasPhrase = record.hasPhrase
  sealedAt : resealed.SealedAt cost
  opens : ∃ keypair phrase, record.Opens old keypair phrase ∧ resealed.Opens new keypair phrase

/-- What `reseal` gives is the record after a change of password. -/
theorem resealed_of_reseal {tape after : Tape}
    (h : record.reseal old new cost tape = (.ok resealed, after)) :
    record.Resealed resealed old new cost := by
  obtain ⟨keypair, phrase, hopens, hmake⟩ := reseal_eq_ok_iff.mp h
  obtain ⟨hshows, hopens'⟩ := make_spec hmake
  obtain ⟨hsealed, -, hcreated, hphrase⟩ := make_sealedAt hmake
  -- The private key that was opened is the one that the old record shows.
  have hshown := publicKey_of_openKeypair hopens.1
  exact ⟨hshows.version, hcreated, hshows.publicKey.trans hshown, hshows.address.trans hshown,
    hphrase.trans hopens.hasPhrase.symm, hsealed, keypair, phrase, hopens, hopens'⟩

/-- A record can be sealed again if the old password opens it and the cost can be met. -/
theorem exists_reseal_iff (tape : Tape) :
    (∃ resealed after, record.reseal old new cost tape = (.ok resealed, after))
      ↔ (∃ keypair phrase, record.Opens old keypair phrase) ∧ cost.Sealable := by
  constructor
  · rintro ⟨resealed, after, h⟩
    obtain ⟨keypair, phrase, hopens, hmake⟩ := reseal_eq_ok_iff.mp h
    obtain ⟨-, hcost, -, -⟩ := make_sealedAt hmake
    exact ⟨⟨keypair, phrase, hopens⟩, hcost⟩
  · rintro ⟨⟨keypair, phrase, hopens⟩, hcost⟩
    obtain ⟨resealed, after, hmake⟩ :=
      make_eq_ok keypair phrase new hcost record.createdAt tape
    exact ⟨resealed, after, reseal_eq_ok_iff.mpr ⟨keypair, phrase, hopens, hmake⟩⟩

end Record

namespace Wallet

variable {settings : Settings} {world : World} {record : Record} {old new : String}

/-- A change of password on a store that does not fail: the record is sealed again, and where
that succeeds it is stored. -/
theorem changePassword_eq (hsound : world.Sound) (hkeeps : world.store.slots.KeepsRecord record)
    (hnew : new ≠ "") :
    (changePassword settings old new).runIn world
      = match record.reseal old new settings.cost world.tape with
        | (.error e, tape) => (.error e, { world.read with tape })
        | (.ok resealed, tape) =>
          (.ok (), World.wrote { world.read with tape } (.set walletKey resealed.text .done)) := by
  have hnonempty : new.isEmpty = false := by simpa using hnew
  unfold changePassword requireNonempty
  simp only [hnonempty, Bool.false_eq_true, if_false]
  rw [runIn_bind, runIn_pure]
  simp only
  rw [runIn_bind, Keystore.require_of_keeps hsound hkeeps]
  simp only
  rw [runIn_bind, runIn_onTape]
  have htape : world.read.tape = world.tape := rfl
  rw [htape]
  rcases record.reseal old new settings.cost world.tape with ⟨result, tape⟩
  cases result with
  | error e => rfl
  | ok resealed =>
      -- The tape is all that has changed since the record was read.
      have hdrawn : World.Sound { world.read with tape } := hsound.read
      exact runIn_set_sound hdrawn walletKey resealed.text

/-- Whoever wrote the record that is stored: a change of password succeeds exactly where the old
password opens the private key, and the phrase if there is one, and the configured cost can be
met. It then writes one full record and nothing else, and this is the same wallet under the new
password. -/
theorem password_change_keeps_the_wallet (hsound : world.Sound)
    (hkeeps : world.store.slots.KeepsRecord record) (hnew : new ≠ "") :
    ((∃ after, (changePassword settings old new).runIn world = (.ok (), after))
        ↔ (∃ keypair, record.openKeypair old = .ok keypair)
          ∧ (record.phrase = none ∨ ∃ phrase, record.openPhrase old = .ok phrase)
          ∧ settings.cost.Sealable)
      ∧ ∀ after, (changePassword settings old new).runIn world = (.ok (), after) →
        ∃ resealed : Record, record.Resealed resealed old new settings.cost
          ∧ after.store.journal
            = world.store.journal ++ [.set walletKey resealed.text .done]
          ∧ after.store.slots.KeepsRecord resealed
          ∧ ∀ key, key ≠ walletKey →
            after.store.slots.lookup? key = world.store.slots.lookup? key := by
  rw [changePassword_eq hsound hkeeps hnew]
  constructor
  · rw [← and_assoc, ← Record.exists_opens_iff, ← Record.exists_reseal_iff world.tape]
    rcases record.reseal old new settings.cost world.tape with ⟨result, tape⟩
    cases result with
    | error e =>
        constructor
        · rintro ⟨after, h⟩
          cases h
        · rintro ⟨resealed, after, h⟩
          cases h
    | ok resealed =>
        constructor
        · rintro -
          exact ⟨resealed, tape, rfl⟩
        · rintro -
          exact ⟨_, rfl⟩
  · intro after h
    cases hreseal : record.reseal old new settings.cost world.tape with
    | mk result tape =>
        rw [hreseal] at h
        cases result with
        | error e => cases h
        | ok resealed =>
            cases h
            have hresealed := Record.resealed_of_reseal hreseal
            refine ⟨resealed, hresealed, rfl, ?_, ?_⟩
            · -- The record was read, so the time that it was made at is written as it reads.
              have hregular : resealed.createdAt.IsRegular := by
                rw [hresealed.createdAt]
                exact hkeeps.isRegular
              have hkept := Store.Slots.keepsRecord_insert world.store.slots hresealed.version
              rwa [Record.asRead_of_isRegular hregular] at hkept
            · intro key hkey
              exact Store.Slots.lookup?_insert_ne hkey

/-- A new wallet, and a change of its password at the cost it was made at. -/
theorem password_change_keeps_the_wallet_created :
    ∃ (world after : World) (record resealed : Record),
      world.Sound ∧ world.store.slots.KeepsRecord record ∧ record.hasPhrase = true
        ∧ (changePassword ⟨.ofSeconds 1800, .light⟩ "Correct-Horse-42" "x").runIn world
          = (.ok (), after)
        ∧ record.Resealed resealed "Correct-Horse-42" "x" .light
        ∧ after.store.slots.KeepsRecord resealed := by
  obtain ⟨created, world, hcreate⟩ := exists_created
  obtain ⟨-, phrase, record, -, -, -, hslots, hshows, hopens⟩ := create_eq_ok hcreate
  have hkeeps : (world.calm .epoch).store.slots.KeepsRecord record.asRead := by
    rw [World.calm_slots, hslots]
    exact (keeps_installed _ hshows.version _ _).1
  let settings : Settings := ⟨.ofSeconds 1800, .light⟩
  obtain ⟨hiff, hkept⟩ := @password_change_keeps_the_wallet settings _ _ "Correct-Horse-42" "x"
    (World.calm_sound world .epoch) hkeeps (by decide)
  obtain ⟨after, hchange⟩ :=
    hiff.mpr ⟨⟨_, hopens.asRead.1⟩, .inr ⟨_, hopens.asRead.2⟩, by decide⟩
  obtain ⟨resealed, hresealed, -, hkeeps', -⟩ := hkept after hchange
  exact ⟨_, after, record.asRead, resealed, World.calm_sound world .epoch, hkeeps,
    hopens.hasPhrase, hchange, hresealed, hkeeps'⟩

end Wallet

end Custody
