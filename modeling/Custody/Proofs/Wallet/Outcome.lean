import Custody.Proofs.Sealed
import Custody.Proofs.Wallet.Kept
import Custody.Wallet

/-!
# `Custody.Proofs.Wallet.Outcome`: what a command has done

Each command that writes has a lemma for each outcome.

* A run that answered without an error, on any store, gives the answer, the slots afterwards and
  the fact that the command rests on: `Wallet.install_eq_ok`, `Wallet.create_eq_ok`,
  `Wallet.restore_eq_ok`, `Wallet.unlock_eq_ok`, `Wallet.changePassword_eq_ok` and
  `Wallet.delete_eq_ok`.
* A run that was refused, on a store that does not fail, has left the slots as they were:
  `Wallet.install_eq_error` and its companions.

`Wallet.create_of_sound` says that a strong password is all that a new wallet needs,
`Wallet.restore_of_sound` that a phrase is all that a restore needs, and
`Wallet.unlock_of_opens` that the right password is all that an unlock needs.
-/

set_option autoImplicit false

namespace Custody

open Time Command
open Store (Slots walletKey sessionKey)

/-- The slots with this record in place. -/
def Store.Slots.withRecord (slots : Slots) (record : Record) : Slots :=
  slots.insert walletKey (.text record.text)

/-- The slots with this session in place. -/
def Store.Slots.withSession (slots : Slots) (session : Session) : Slots :=
  slots.insert sessionKey (.text session.text)

namespace Session

/-- How long a session is kept that starts now: until its expiry, as its text has it. -/
def keptUntil (length : Span) (now : Instant) : Instant := (expiry length now).asRead

/-- The session that is kept for a key pair from now on. -/
def begun (length : Span) (keypair : Keypair) (now : Instant) : Session :=
  ⟨keypair.secretHex, keptUntil length now⟩

variable {world after : World}

/-- A session that was started is in place, as it reads. -/
theorem start_eq_ok {length : Span} {secret : String} {expiresAt : Instant}
    (h : (start length secret).runIn world = (.ok expiresAt, after)) :
    expiresAt = expiry length world.now
      ∧ after.store.slots
        = world.store.slots.withSession ⟨secret, keptUntil length world.now⟩ := by
  unfold start at h
  obtain ⟨t, between, hnow, hrest⟩ := runIn_bind_eq_ok.mp h
  cases hnow
  obtain ⟨u, between, hsave, hrest⟩ := runIn_bind_eq_ok.mp hrest
  have hbetween := runIn_set_eq_ok hsave
  subst hbetween
  cases hrest
  -- What was written is the text of the session before it was read.
  have htext := text_asRead ⟨secret, expiry length world.now⟩
  exact ⟨rfl, congrArg (fun text => world.store.slots.insert sessionKey (.text text)) htext.symm⟩

/-- On a store that does not fail, a session is started. -/
theorem start_of_sound (hsound : world.Sound) (length : Span) (secret : String) :
    ∃ after, (start length secret).runIn world = (.ok (expiry length world.now), after) := by
  unfold start save
  rw [runIn_bind, runIn_now]
  simp only
  rw [runIn_bind, runIn_set_sound hsound]
  exact ⟨_, rfl⟩

/-- A session that is kept reads back. -/
theorem ofText?_kept (key : String) (length : Span) (now : Instant) :
    ofText? (text ⟨key, keptUntil length now⟩) = some ⟨key, keptUntil length now⟩ := by
  rw [ofText?_text, asRead_of_isRegular (Instant.isRegular_asRead _)]

/-- The session that is put in place for a key pair is the one that is kept. -/
theorem keeps_begun (slots : Slots) (length : Span) (keypair : Keypair) (now : Instant) :
    (slots.withSession (.begun length keypair now)).KeepsSession (.begun length keypair now) :=
  ⟨_, Store.Slots.lookup?_insert_self, ofText?_kept _ _ _⟩

end Session

namespace Wallet

variable {world after : World} {settings : Settings}

/-- The slots after a wallet was put in place. -/
def installed (settings : Settings) (keypair : Keypair) (record : Record) (now : Instant)
    (slots : Slots) : Slots :=
  ((slots.erase sessionKey).withRecord record).withSession (.begun settings.session keypair now)

/-- A wallet that was put in place opens with its password. -/
theorem install_eq_ok {keypair : Keypair} {phrase password : String} {record : Record}
    (h : (install settings keypair phrase password).runIn world = (.ok record, after)) :
    after.store.slots = installed settings keypair record world.now world.store.slots
      ∧ record.Shows keypair ∧ record.Opens password keypair (some phrase) := by
  unfold install at h
  obtain ⟨createdAt, between, hnow, hrest⟩ := runIn_bind_eq_ok.mp h
  cases hnow
  obtain ⟨made, between, hmake, hrest⟩ := runIn_bind_eq_ok.mp hrest
  rw [runIn_onTape] at hmake
  -- Everything after the draw is a write. The slots come from the writes, in order.
  injection hmake with hmade hbetween
  have hspec := Record.make_spec (Prod.ext hmade rfl)
  subst hbetween
  obtain ⟨u, between, hfinish, hrest⟩ := runIn_bind_eq_ok.mp hrest
  have hbetween := runIn_delete_eq_ok hfinish
  subst hbetween
  obtain ⟨u, between, hsave, hrest⟩ := runIn_bind_eq_ok.mp hrest
  have hbetween := runIn_set_eq_ok hsave
  subst hbetween
  obtain ⟨expiresAt, between, hstart, hrest⟩ := runIn_bind_eq_ok.mp hrest
  obtain ⟨-, hslots⟩ := Session.start_eq_ok hstart
  cases hrest
  exact ⟨hslots, hspec⟩

/-- The record and the session that are kept after a wallet was put in place. -/
theorem keeps_installed (keypair : Keypair) {record : Record}
    (h : record.version = recordVersion) (now : Instant) (slots : Slots) :
    (installed settings keypair record now slots).KeepsRecord record.asRead
      ∧ (installed settings keypair record now slots).KeepsSession
          (.begun settings.session keypair now) :=
  ⟨(Store.Slots.keepsRecord_insert _ h).insert_session _, Session.keeps_begun _ _ _ _⟩

/-- A new phrase is that of sixteen bytes from the tape. -/
theorem newPhrase_eq_ok {phrase : Phrase} (h : newPhrase.runIn world = (.ok phrase, after)) :
    ∃ entropy : Bytes, entropy.length = entropyLength ∧ phrase = Phrase.ofEntropy entropy
      ∧ after.store = world.store ∧ after.now = world.now := by
  unfold newPhrase at h
  rw [runIn_onTape] at h
  injection h with hphrase hafter
  refine ⟨(world.tape.draw entropyLength).1, Sealed.length_draw _ _, ?_, ?_, ?_⟩
  · exact (Except.ok.inj hphrase).symm
  · rw [← hafter]
  · rw [← hafter]

/-- A new wallet is that of a phrase of fresh entropy. -/
theorem create_eq_ok {password : String} {created : Created}
    (h : (create settings password).runIn world = (.ok created, after)) :
    ∃ (entropy : Bytes) (phrase : Phrase) (record : Record),
      entropy.length = entropyLength ∧ phrase = Phrase.ofEntropy entropy
        ∧ created = ⟨.ofRecord record, phrase.text⟩
        ∧ after.store.slots = installed settings phrase.keypair record world.now world.store.slots
        ∧ record.Shows phrase.keypair
        ∧ record.Opens password phrase.keypair (some phrase.text) := by
  unfold create at h
  simp only at h
  split at h
  · obtain ⟨phrase, between, hphrase, hrest⟩ := runIn_bind_eq_ok.mp h
    obtain ⟨entropy, hlength, rfl, hstore, hnow⟩ := newPhrase_eq_ok hphrase
    obtain ⟨record, between', hinstall, hrest⟩ := runIn_bind_eq_ok.mp hrest
    obtain ⟨hslots, hspec⟩ := install_eq_ok hinstall
    -- Drawing the entropy has changed neither the store nor the clock.
    rw [hstore, hnow] at hslots
    injection hrest with hcreated hafter
    subst hafter
    exact ⟨entropy, _, record, hlength, rfl, (Except.ok.inj hcreated).symm, hslots, hspec⟩
  · cases h

/-- Looking whether a password is empty changes nothing. -/
theorem requireNonempty_eq_ok {password : String} {u : Unit}
    (h : (requireNonempty password).runIn world = (.ok u, after)) : after = world := by
  unfold requireNonempty at h
  split at h
  · cases h
  · cases h
    rfl

/-- A restored wallet is that of the phrase that was typed. -/
theorem restore_eq_ok {typed password : String} {summary : Summary}
    (h : (restore settings typed password).runIn world = (.ok summary, after)) :
    ∃ (phrase : Phrase) (record : Record),
      Phrase.parse typed = .ok phrase ∧ summary = .ofRecord record
        ∧ after.store.slots = installed settings phrase.keypair record world.now world.store.slots
        ∧ record.Shows phrase.keypair
        ∧ record.Opens password phrase.keypair (some phrase.text) := by
  unfold restore at h
  obtain ⟨u, between, hnonempty, hrest⟩ := runIn_bind_eq_ok.mp h
  have hbetween := requireNonempty_eq_ok hnonempty
  subst hbetween
  cases hphrase : Phrase.parse typed with
  | error fault =>
      rw [hphrase] at hrest
      cases hrest
  | ok phrase =>
      rw [hphrase] at hrest
      obtain ⟨record, between, hinstall, hrest⟩ := runIn_bind_eq_ok.mp hrest
      cases hrest
      exact ⟨phrase, record, rfl, rfl, install_eq_ok hinstall⟩

/-- A wallet that was unlocked has a session of the key that the password opened. -/
theorem unlock_eq_ok {password : String} {summary : Summary}
    (h : (unlock settings password).runIn world = (.ok summary, after)) :
    ∃ (record : Record) (keypair : Keypair),
      world.store.slots.KeepsRecord record ∧ record.openKeypair password = .ok keypair
        ∧ summary = .ofRecord record
        ∧ after.store.slots
            = world.store.slots.withSession (.begun settings.session keypair world.now) := by
  unfold unlock at h
  obtain ⟨record, between, hrequire, hrest⟩ := runIn_bind_eq_ok.mp h
  obtain ⟨rfl, hkeeps⟩ := Keystore.require_eq_ok hrequire
  obtain ⟨keypair, between, hopen, hrest⟩ := runIn_bind_eq_ok.mp hrest
  rw [runIn_answer] at hopen
  injection hopen with hopen hbetween
  subst hbetween
  obtain ⟨expiresAt, between, hstart, hrest⟩ := runIn_bind_eq_ok.mp hrest
  obtain ⟨-, hslots⟩ := Session.start_eq_ok hstart
  cases hrest
  exact ⟨record, keypair, hkeeps, hopen, rfl, hslots⟩

/-- After a change of password there is another record of the same secrets. -/
theorem changePassword_eq_ok {old new : String} {u : Unit}
    (h : (changePassword settings old new).runIn world = (.ok u, after)) :
    ∃ (record resealed : Record) (keypair : Keypair) (phrase : Option String),
      world.store.slots.KeepsRecord record ∧ record.Opens old keypair phrase
        ∧ resealed.Shows keypair ∧ resealed.Opens new keypair phrase
        ∧ after.store.slots = world.store.slots.withRecord resealed := by
  unfold changePassword at h
  obtain ⟨u', between, hnonempty, hrest⟩ := runIn_bind_eq_ok.mp h
  have hbetween := requireNonempty_eq_ok hnonempty
  subst hbetween
  obtain ⟨record, between, hrequire, hrest⟩ := runIn_bind_eq_ok.mp hrest
  obtain ⟨rfl, hkeeps⟩ := Keystore.require_eq_ok hrequire
  obtain ⟨resealed, between, hreseal, hrest⟩ := runIn_bind_eq_ok.mp hrest
  rw [runIn_onTape] at hreseal
  injection hreseal with hresealed hbetween
  obtain ⟨keypair, phrase, hopens, hshows, hopens'⟩ :=
    Record.reseal_spec (Prod.ext hresealed rfl)
  subst hbetween
  have hafter := runIn_set_eq_ok hrest
  subst hafter
  exact ⟨record, resealed, keypair, phrase, hkeeps, hopens, hshows, hopens', rfl⟩

/-- A wallet that was deleted has neither session nor record left. -/
theorem delete_eq_ok {u : Unit} (h : delete.runIn world = (.ok u, after)) :
    after.store.slots = (world.store.slots.erase sessionKey).erase walletKey := by
  unfold delete Keystore.delete at h
  obtain ⟨u', between, hsession, hrest⟩ := runIn_bind_eq_ok.mp h
  have hbetween := runIn_delete_eq_ok hsession
  subst hbetween
  rw [runIn_delete_eq_ok hrest]
  rfl

/-! ### Wallets that can be made -/

/-- On a store that does not fail, a wallet is put in place, if the cost can be met. -/
theorem install_of_sound (hsound : world.Sound) (hcost : settings.cost.Sealable)
    (keypair : Keypair) (phrase password : String) :
    ∃ record after, (install settings keypair phrase password).runIn world
      = (.ok record, after) := by
  obtain ⟨record, tape, hmake⟩ :=
    Record.make_eq_ok keypair (some phrase) password hcost world.now world.tape
  -- Only the record can fail to be made: the writes after it do not.
  have hdrawn : World.Sound { world with tape } := hsound
  unfold install
  rw [runIn_bind, runIn_now]
  simp only
  rw [runIn_bind, runIn_onTape, hmake]
  simp only
  rw [runIn_bind, Session.finish_sound hdrawn]
  simp only
  rw [runIn_bind, Keystore.save, runIn_set_sound (hdrawn.wrote _)]
  simp only
  obtain ⟨after, hstart⟩ :=
    Session.start_of_sound ((hdrawn.wrote _).wrote _) settings.session keypair.secretHex
  rw [runIn_bind, hstart]
  exact ⟨record, after, rfl⟩

/-- On a store that does not fail, a strong password makes a new wallet. -/
theorem create_of_sound (hsound : world.Sound) (hcost : settings.cost.Sealable)
    {password : String} (hstrong : (Password.strength password).isStrong = true) :
    ∃ created after, (create settings password).runIn world = (.ok created, after) := by
  cases hphrase : newPhrase.runIn world with
  | mk result between =>
      cases result with
      | error e => cases hphrase
      | ok phrase =>
          obtain ⟨-, -, -, hstore, -⟩ := newPhrase_eq_ok hphrase
          have hbetween : between.Sound := by
            intro n call key
            rw [hstore]
            exact hsound n call key
          obtain ⟨record, after, hinstall⟩ :=
            install_of_sound hbetween hcost phrase.keypair phrase.text password
          unfold create
          simp only [hstrong, if_true]
          rw [runIn_bind, hphrase]
          simp only
          rw [runIn_bind, hinstall]
          exact ⟨_, after, rfl⟩

/-- On a store that does not fail, a phrase and any password but the empty one restore a wallet. -/
theorem restore_of_sound (hsound : world.Sound) (hcost : settings.cost.Sealable)
    {typed password : String} {phrase : Phrase} (hphrase : Phrase.parse typed = .ok phrase)
    (hpassword : password.isEmpty = false) :
    ∃ summary after, (restore settings typed password).runIn world = (.ok summary, after) := by
  obtain ⟨record, after, hinstall⟩ :=
    install_of_sound hsound hcost phrase.keypair phrase.text password
  have hnonempty : (requireNonempty password).runIn world = (.ok (), world) := by
    rw [requireNonempty, hpassword]
    rfl
  unfold restore
  rw [runIn_bind, hnonempty, hphrase]
  simp only
  rw [runIn_bind, hinstall]
  exact ⟨_, after, rfl⟩

/-- So there are wallets: one is made in an empty store, whatever the clock says. -/
theorem exists_created_at (session : Span) (now : Instant) :
    ∃ created after, (create ⟨session, .light⟩ "Correct-Horse-42").runIn
      (World.calm ⟨Store.empty, .epoch, .ofBytes [7]⟩ now) = (.ok created, after) := by
  have hstrong : (Password.strength "Correct-Horse-42").isStrong = true := by decide +kernel
  have hcost : Kdf.Cost.light.Sealable := by decide
  exact create_of_sound (World.calm_sound _ _) hcost hstrong

/-- One is made at the start of 1970, with sessions of half an hour. -/
theorem exists_created :
    ∃ created after, (create ⟨.ofSeconds 1800, .light⟩ "Correct-Horse-42").runIn
      (World.calm ⟨Store.empty, .epoch, .ofBytes [7]⟩ .epoch) = (.ok created, after) :=
  exists_created_at _ _

/-- On a store that does not fail, a password that opens the record unlocks the wallet. -/
theorem unlock_of_opens (hsound : world.Sound) (settings : Settings) {record : Record}
    (hkeeps : world.store.slots.KeepsRecord record) {password : String} {keypair : Keypair}
    (hopen : record.openKeypair password = .ok keypair) :
    ∃ summary after, (unlock settings password).runIn world = (.ok summary, after) := by
  obtain ⟨after, hstart⟩ :=
    Session.start_of_sound hsound.read settings.session keypair.secretHex
  unfold unlock
  rw [runIn_bind, Keystore.require_of_keeps hsound hkeeps]
  simp only
  rw [runIn_bind, runIn_answer, hopen]
  simp only
  rw [runIn_bind, hstart]
  exact ⟨.ofRecord record, after, rfl⟩

/-- On a store that does not fail, a wallet is forgotten. -/
theorem delete_of_sound (hsound : world.Sound) :
    delete.runIn world = (.ok (),
      (world.wrote (.delete sessionKey .done)).wrote (.delete walletKey .done)) := by
  unfold delete Keystore.delete
  rw [runIn_bind, runIn_delete_sound hsound]
  exact runIn_delete_sound (hsound.wrote _) walletKey

/-! ### Commands that were refused -/

/-- In a store that does not fail, no session fails to start. -/
theorem not_start_eq_error (hsound : world.Sound) {length : Span} {secret : String}
    {e : WalletError} : (Session.start length secret).runIn world ≠ (.error e, after) := by
  obtain ⟨started, hstart⟩ := Session.start_of_sound hsound length secret
  rw [hstart]
  intro h
  cases h

/-- On a store that does not fail, a wallet that was not put in place changed nothing: what can
be refused is refused before the first write. -/
theorem install_eq_error (hsound : world.Sound) {keypair : Keypair} {phrase password : String}
    {e : WalletError}
    (h : (install settings keypair phrase password).runIn world = (.error e, after)) :
    after.store.slots = world.store.slots := by
  unfold install at h
  rw [runIn_bind, runIn_now] at h
  rcases runIn_bind_eq_error.mp h with hmake | ⟨record, between, hmake, hrest⟩
  · rw [runIn_onTape] at hmake
    injection hmake with _ hafter
    rw [← hafter]
  · -- From here on there are only writes, and no write fails.
    rw [runIn_onTape] at hmake
    injection hmake with _ hbetween
    have hdrawn : between.Sound := by
      rw [← hbetween]
      exact hsound
    rw [runIn_bind, Session.finish_sound hdrawn] at hrest
    simp only at hrest
    rw [runIn_bind, Keystore.save, runIn_set_sound (hdrawn.wrote _)] at hrest
    rcases runIn_bind_eq_error.mp hrest with hstart | ⟨expiresAt, between', -, hpure⟩
    · exact absurd hstart (not_start_eq_error ((hdrawn.wrote _).wrote _))
    · cases hpure

/-- A wallet that was refused has not been written. -/
theorem create_eq_error (hsound : world.Sound) {password : String} {e : WalletError}
    (h : (create settings password).runIn world = (.error e, after)) :
    after.store.slots = world.store.slots := by
  unfold create at h
  simp only at h
  split at h
  · rcases runIn_bind_eq_error.mp h with hphrase | ⟨phrase, between, hphrase, hrest⟩
    · cases hphrase
    · obtain ⟨-, -, -, hstore, -⟩ := newPhrase_eq_ok hphrase
      have hbetween : between.Sound := by
        intro n call key
        rw [hstore]
        exact hsound n call key
      rcases runIn_bind_eq_error.mp hrest with hinstall | ⟨record, between', -, hpure⟩
      · rw [install_eq_error hbetween hinstall, hstore]
      · cases hpure
  · cases h
    rfl

/-- An empty password changes nothing. -/
theorem requireNonempty_eq_error {password : String} {e : WalletError}
    (h : (requireNonempty password).runIn world = (.error e, after)) : after = world := by
  unfold requireNonempty at h
  split at h
  · cases h
    rfl
  · cases h

/-- A restore that was refused has not written anything. -/
theorem restore_eq_error (hsound : world.Sound) {typed password : String} {e : WalletError}
    (h : (restore settings typed password).runIn world = (.error e, after)) :
    after.store.slots = world.store.slots := by
  unfold restore at h
  rcases runIn_bind_eq_error.mp h with hempty | ⟨u, between, hnonempty, hrest⟩
  · rw [requireNonempty_eq_error hempty]
  · have hbetween := requireNonempty_eq_ok hnonempty
    subst hbetween
    cases hphrase : Phrase.parse typed with
    | error fault =>
        rw [hphrase] at hrest
        cases hrest
        rfl
    | ok phrase =>
        rw [hphrase] at hrest
        rcases runIn_bind_eq_error.mp hrest with hinstall | ⟨record, between', -, hpure⟩
        · exact install_eq_error hsound hinstall
        · cases hpure

/-- An unlock that was refused has not written anything. -/
theorem unlock_eq_error (hsound : world.Sound) {password : String} {e : WalletError}
    (h : (unlock settings password).runIn world = (.error e, after)) :
    after.store.slots = world.store.slots := by
  unfold unlock at h
  rcases runIn_bind_eq_error.mp h with hrequire | ⟨record, between, hrequire, hrest⟩
  · rw [Keystore.require_eq_error hrequire, World.read_slots]
  · obtain ⟨rfl, -⟩ := Keystore.require_eq_ok hrequire
    rcases runIn_bind_eq_error.mp hrest with hopen | ⟨keypair, between, hopen, hstart⟩
    · injection hopen with _ hafter
      rw [← hafter, World.read_slots]
    · injection hopen with _ hbetween
      subst hbetween
      rcases runIn_bind_eq_error.mp hstart with hstart | ⟨expiresAt, between, -, hpure⟩
      · exact absurd hstart (not_start_eq_error hsound.read)
      · cases hpure

/-- A change of password that was refused has not written anything. -/
theorem changePassword_eq_error (hsound : world.Sound) {old new : String} {e : WalletError}
    (h : (changePassword settings old new).runIn world = (.error e, after)) :
    after.store.slots = world.store.slots := by
  unfold changePassword at h
  rcases runIn_bind_eq_error.mp h with hempty | ⟨u, between, hnonempty, hrest⟩
  · rw [requireNonempty_eq_error hempty]
  · have hbetween := requireNonempty_eq_ok hnonempty
    subst hbetween
    rcases runIn_bind_eq_error.mp hrest with hrequire | ⟨record, between', hrequire, hrest⟩
    · rw [Keystore.require_eq_error hrequire, World.read_slots]
    · obtain ⟨rfl, -⟩ := Keystore.require_eq_ok hrequire
      rcases runIn_bind_eq_error.mp hrest with hreseal | ⟨resealed, drawn, hreseal, hsave⟩
      · rw [runIn_onTape] at hreseal
        injection hreseal with _ hafter
        rw [← hafter, World.read_slots]
      · rw [runIn_onTape] at hreseal
        injection hreseal with _ hdrawn
        have hsound' : drawn.Sound := by
          rw [← hdrawn]
          exact hsound
        rw [Keystore.save, runIn_set_sound hsound'] at hsave
        cases hsave

end Wallet

end Custody
