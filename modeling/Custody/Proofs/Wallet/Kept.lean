import Custody.Keystore
import Custody.Proofs.Sealed
import Custody.Proofs.Stored
import Custody.Proofs.World

/-!
# `Custody.Proofs.Wallet.Kept`: the record and the session that a store keeps

`Slots.KeepsRecord` and `Slots.KeepsSession` say what is under the two keys of the wallet, read
as the wallet reads it. What was saved is kept (`keepsRecord_insert`, `keepsSession_insert`),
and a write under one key leaves what is kept under the other.

The commands of the keystore and the session are told in these terms. On any store,
`Keystore.load_eq_ok` and `Keystore.require_eq_ok` say what a successful look at the record has
found. On a store that does not fail, each case of looking at the record or at the session has
its own equation (`Keystore.require_of_keeps`, `Session.live_of_keeps` and the others).
-/

set_option autoImplicit false

namespace Custody

open Time Command

/-! ### Records as they read -/

/-- Neither identity nor version depends on when a record was made. -/
theorem Record.Shows.asRead {record : Record} {keypair : Keypair} (h : record.Shows keypair) :
    record.asRead.Shows keypair :=
  ⟨h.version, h.address, h.publicKey⟩

/-- Neither the key nor the phrase depends on when a record was made. -/
theorem Record.Opens.asRead {record : Record} {password : String} {keypair : Keypair}
    {phrase : Option String} (h : record.Opens password keypair phrase) :
    record.asRead.Opens password keypair phrase := h

/-! ### What the slots keep -/

namespace Store.Slots

variable {slots other : Slots} {record : Record} {session : Session}

/-- The slots hold a text that loads as this record. -/
def KeepsRecord (slots : Slots) (record : Record) : Prop :=
  ∃ text, slots.lookup? walletKey = some (.text text) ∧ Keystore.decode text = .ok record

/-- The slots hold a text that reads as this session. -/
def KeepsSession (slots : Slots) (session : Session) : Prop :=
  ∃ text, slots.lookup? sessionKey = some (.text text) ∧ Session.ofText? text = some session

/-- Where a record is kept, there is something under its key. -/
theorem KeepsRecord.lookup?_ne_none (h : slots.KeepsRecord record) :
    slots.lookup? walletKey ≠ none := by
  obtain ⟨text, hslot, -⟩ := h
  rw [hslot]
  exact Option.some_ne_none _

/-- Where a session is kept, there is something under its key. -/
theorem KeepsSession.lookup?_ne_none (h : slots.KeepsSession session) :
    slots.lookup? sessionKey ≠ none := by
  obtain ⟨text, hslot, -⟩ := h
  rw [hslot]
  exact Option.some_ne_none _

/-- The slots keep one record at most. -/
theorem KeepsRecord.unique {found : Record} (h : slots.KeepsRecord record)
    (h' : slots.KeepsRecord found) : found = record := by
  obtain ⟨text, hslot, hdecode⟩ := h
  obtain ⟨text', hslot', hdecode'⟩ := h'
  rw [hslot] at hslot'
  cases hslot'
  rw [hdecode] at hdecode'
  exact (Except.ok.inj hdecode').symm

/-- The slots keep one session at most. -/
theorem KeepsSession.unique {found : Session} (h : slots.KeepsSession session)
    (h' : slots.KeepsSession found) : found = session := by
  obtain ⟨text, hslot, hread⟩ := h
  obtain ⟨text', hslot', hread'⟩ := h'
  rw [hslot] at hslot'
  cases hslot'
  rw [hread] at hread'
  exact (Option.some.inj hread').symm

/-- A record that loads has the current version. -/
theorem KeepsRecord.version (h : slots.KeepsRecord record) : record.version = recordVersion := by
  obtain ⟨text, -, hdecode⟩ := h
  exact (Keystore.decode_eq_ok hdecode).2

/-- Whether a record is kept depends on its own key only. -/
theorem KeepsRecord.congr (h : slots.KeepsRecord record)
    (hslot : other.lookup? walletKey = slots.lookup? walletKey) : other.KeepsRecord record := by
  unfold KeepsRecord at *
  rw [hslot]
  exact h

/-- Whether a session is kept depends on its own key only. -/
theorem KeepsSession.congr (h : slots.KeepsSession session)
    (hslot : other.lookup? sessionKey = slots.lookup? sessionKey) :
    other.KeepsSession session := by
  unfold KeepsSession at *
  rw [hslot]
  exact h

/-- A record that is kept was made at a regular instant. -/
theorem KeepsRecord.isRegular (h : slots.KeepsRecord record) : record.createdAt.IsRegular := by
  obtain ⟨text, -, hdecode⟩ := h
  exact Record.isRegular_of_ofText? (Keystore.decode_eq_ok hdecode).1

/-- A record that was saved is kept, as it reads. -/
theorem keepsRecord_insert (slots : Slots) (h : record.version = recordVersion) :
    (slots.insert walletKey (.text record.text)).KeepsRecord record.asRead :=
  ⟨record.text, lookup?_insert_self, Keystore.decode_text record h⟩

/-- A session that was saved is kept, as it reads. -/
theorem keepsSession_insert (slots : Slots) (session : Session) :
    (slots.insert sessionKey (.text session.text)).KeepsSession session.asRead :=
  ⟨session.text, lookup?_insert_self, Session.ofText?_text session⟩

/-- A record is kept when a session is written. -/
theorem KeepsRecord.insert_session (h : slots.KeepsRecord record) (slot : Slot) :
    (slots.insert sessionKey slot).KeepsRecord record :=
  h.congr (lookup?_insert_ne walletKey_ne_sessionKey)

/-- A record is kept when the session is removed. -/
theorem KeepsRecord.erase_session (h : slots.KeepsRecord record) :
    (slots.erase sessionKey).KeepsRecord record :=
  h.congr (lookup?_erase_ne walletKey_ne_sessionKey)

/-- A session is kept when a record is written. -/
theorem KeepsSession.insert_record (h : slots.KeepsSession session) (slot : Slot) :
    (slots.insert walletKey slot).KeepsSession session :=
  h.congr (lookup?_insert_ne sessionKey_ne_walletKey)

end Store.Slots

open Store (walletKey sessionKey)

/-! ### Looking at the record -/

namespace Keystore

variable {world after : World} {record : Record}

/-- Loading changes nothing in the slots, and what it finds is kept there. -/
theorem load_eq_ok {found : Option Record} (h : load.runIn world = (.ok found, after)) :
    after = world.read ∧ match found with
      | none => world.store.slots.lookup? walletKey = none
      | some record => world.store.slots.KeepsRecord record := by
  unfold load at h
  obtain ⟨text, between, hget, hrest⟩ := runIn_bind_eq_ok.mp h
  obtain ⟨rfl, hslot⟩ := runIn_get_eq_ok hget
  cases text with
  | none =>
      cases hrest
      exact ⟨rfl, hslot⟩
  | some text =>
      obtain ⟨record, between, hdecode, hrest⟩ := runIn_bind_eq_ok.mp hrest
      rw [runIn_answer] at hdecode
      cases hrest
      injection hdecode with hdecode hbetween
      exact ⟨hbetween.symm, text, hslot, hdecode⟩

/-- Asking for the record changes nothing in the slots, and what is found is kept there. -/
theorem require_eq_ok (h : require.runIn world = (.ok record, after)) :
    after = world.read ∧ world.store.slots.KeepsRecord record := by
  unfold require at h
  obtain ⟨found, between, hload, hrest⟩ := runIn_bind_eq_ok.mp h
  obtain ⟨rfl, hfound⟩ := load_eq_ok hload
  cases found with
  | none => cases hrest
  | some record =>
      cases hrest
      exact ⟨rfl, hfound⟩

/-- Loading changes nothing in the slots, also where it fails. -/
theorem load_eq_error {e : WalletError} (h : load.runIn world = (.error e, after)) :
    after = world.read := by
  unfold load at h
  have hread : ((get walletKey).runIn world).2 = world.read := snd_runIn_get walletKey
  rcases runIn_bind_eq_error.mp h with hget | ⟨found, between, hget, hrest⟩
  · rw [hget] at hread
    exact hread
  · rw [hget] at hread
    subst hread
    cases found with
    | none => cases hrest
    | some text =>
        rcases runIn_bind_eq_error.mp hrest with hdecode | ⟨record, between, -, hpure⟩
        · injection hdecode with _ hafter
          exact hafter.symm
        · cases hpure

/-- Asking in vain changes nothing either. -/
theorem require_eq_error {e : WalletError} (h : require.runIn world = (.error e, after)) :
    after = world.read := by
  unfold require at h
  rcases runIn_bind_eq_error.mp h with hload | ⟨found, between, hload, hrest⟩
  · exact load_eq_error hload
  · obtain ⟨rfl, -⟩ := load_eq_ok hload
    cases found with
    | none =>
        cases hrest
        rfl
    | some record => cases hrest

variable (hsound : world.Sound)

include hsound

/-- On a store that does not fail, loading gives the record that is kept. -/
theorem load_of_keeps (h : world.store.slots.KeepsRecord record) :
    load.runIn world = (.ok (some record), world.read) := by
  obtain ⟨text, hslot, hdecode⟩ := h
  unfold load
  rw [runIn_bind, runIn_get hsound, hslot]
  simp only
  rw [runIn_bind, runIn_answer, hdecode]
  rfl

/-- Where nothing is under the key of the record, none is found. -/
theorem load_of_none (h : world.store.slots.lookup? walletKey = none) :
    load.runIn world = (.ok none, world.read) := by
  unfold load
  rw [runIn_bind, runIn_get hsound, h]
  rfl

/-- A record that is kept is found when it is asked for. -/
theorem require_of_keeps (h : world.store.slots.KeepsRecord record) :
    require.runIn world = (.ok record, world.read) := by
  unfold require
  rw [runIn_bind, load_of_keeps hsound h]
  rfl

/-- Where nothing is under the key, there is no wallet. -/
theorem require_of_none (h : world.store.slots.lookup? walletKey = none) :
    require.runIn world = (.error .noWallet, world.read) := by
  unfold require
  rw [runIn_bind, load_of_none hsound h]
  rfl

/-- A text that does not load is complained about. -/
theorem require_of_undecodable {text : String} {e : WalletError}
    (hslot : world.store.slots.lookup? walletKey = some (.text text))
    (hdecode : decode text = .error e) : require.runIn world = (.error e, world.read) := by
  unfold require load
  rw [runIn_bind, runIn_bind, runIn_get hsound, hslot]
  simp only
  rw [runIn_bind, runIn_answer, hdecode]

end Keystore

/-! ### Looking at the session -/

namespace Session

variable {world : World} {session : Session} (hsound : world.Sound)

/-- The world after a look that has removed the session. -/
def removed (world : World) : World := world.read.wrote (.delete sessionKey .done)

include hsound

/-- In a store that does not fail, a session can be ended. -/
theorem finish_sound : finish.runIn world = (.ok (), world.wrote (.delete sessionKey .done)) :=
  runIn_delete_sound hsound sessionKey

/-- Where nothing is under the key of the session, none is live. -/
theorem live_of_none (h : world.store.slots.lookup? sessionKey = none) :
    live.runIn world = (.ok none, world.read) := by
  unfold live
  rw [runIn_bind, runIn_get hsound, h]
  rfl

/-- A session whose time has not come is found and stays. -/
theorem live_of_keeps (h : world.store.slots.KeepsSession session)
    (hlive : session.isLiveAt world.now = true) :
    live.runIn world = (.ok (some session), world.read) := by
  obtain ⟨text, hslot, hread⟩ := h
  unfold live
  rw [runIn_bind, runIn_get hsound, hslot]
  simp only [hread]
  rw [runIn_bind, runIn_now]
  -- Reading the store has not moved the clock.
  simp only [World.read_now, hlive, if_true]
  rfl

/-- A session whose time has come is removed. -/
theorem live_of_expired (h : world.store.slots.KeepsSession session)
    (hlive : session.isLiveAt world.now = false) :
    live.runIn world = (.ok none, removed world) := by
  obtain ⟨text, hslot, hread⟩ := h
  unfold live
  rw [runIn_bind, runIn_get hsound, hslot]
  simp only [hread]
  rw [runIn_bind, runIn_now]
  simp only [World.read_now, hlive]
  rw [if_neg Bool.false_ne_true, runIn_bind, finish_sound hsound.read]
  rfl

/-- A text that is no session is removed. -/
theorem live_of_unreadable {text : String}
    (h : world.store.slots.lookup? sessionKey = some (.text text)) (hread : ofText? text = none) :
    live.runIn world = (.ok none, removed world) := by
  unfold live
  rw [runIn_bind, runIn_get hsound, h]
  simp only [hread]
  rw [runIn_bind, finish_sound hsound.read]
  rfl

/-- All cases of a look at the session together. -/
theorem runIn_live :
    live.runIn world =
      match world.store.slots.lookup? sessionKey with
      | none => (.ok none, world.read)
      | some .blob => (.error (.storage ⟨sessionKey⟩), world.read)
      | some (.text text) =>
        match ofText? text with
        | none => (.ok none, removed world)
        | some session =>
          if session.isLiveAt world.now then (.ok (some session), world.read)
          else (.ok none, removed world) := by
  cases hslot : world.store.slots.lookup? sessionKey with
  | none => exact live_of_none hsound hslot
  | some slot =>
      cases slot with
      | blob =>
          unfold live
          rw [runIn_bind, runIn_get hsound, hslot]
      | text text =>
          simp only
          cases hread : ofText? text with
          | none => exact live_of_unreadable hsound hslot hread
          | some session =>
              have hkeeps : world.store.slots.KeepsSession session := ⟨text, hslot, hread⟩
              simp only
              split
              · rename_i hlive
                exact live_of_keeps hsound hkeeps hlive
              · rename_i hlive
                exact live_of_expired hsound hkeeps (Bool.eq_false_iff.mpr hlive)

end Session

end Custody
