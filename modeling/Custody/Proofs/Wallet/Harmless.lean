import Custody.Proofs.Wallet.Crash

/-!
# `Custody.Proofs.Wallet.Harmless`: what a failure may leave behind

The error of a call tells what the call can have done to the store. `Excused` says it of the
writes:

* after a failure of the store, any write that the call makes (`MayWrite`) may be there or not;
* a wallet that is locked had no session, or one that was good for nothing (`Stale`), which is
  gone;
* with any other error, no write was even attempted.

`Harmless` says what this comes to in the slots. Write after write, the wallet's key holds what
it held, or the call's own record in full, or nothing where the call was to remove it
(`MayWrite.walletSlot`), and so it does in the end (`Harmless.of_excused`).
-/

set_option autoImplicit false

namespace Custody

open Time
open Store (Slots walletKey sessionKey)

/-! ### Errors and writes -/

/-- What is under the session's key does not unlock the wallet. -/
inductive Stale (slots : Slots) (now : Instant) : Prop where
  | unreadable (text : String) (kept : slots.lookup? sessionKey = some (.text text))
      (unread : Session.ofText? text = none)
  | expired (session : Session) (kept : slots.KeepsSession session)
      (ended : session.isLiveAt now = false)
  | foreign (session : Session) (record : Record) (kept : slots.KeepsSession session)
      (stored : slots.KeepsRecord record)
      (other : ∀ keypair, Keypair.ofHex session.privateKey = .ok keypair →
        keypair.publicKey.toHex ≠ record.publicKey)

/-- The writes of a call that would store this record, and that may remove one or not. -/
inductive MayWrite (new? : Option Record) (forgets : Bool) : Store.Write → Prop where
  | endSession (fate : Store.Fate) : MayWrite new? forgets (.delete sessionKey fate)
  | putSession (session : Session) (fate : Store.Fate) :
      MayWrite new? forgets (.set sessionKey session.text fate)
  | putRecord (record : Record) (fate : Store.Fate) (made : new? = some record) :
      MayWrite new? forgets (.set walletKey record.text fate)
  | forget (fate : Store.Fate) (meant : forgets = true) :
      MayWrite new? forgets (.delete walletKey fate)

/-- What a call that failed with this error may have written. -/
def Excused (new? : Option Record) (forgets : Bool) (slots : Slots) (now : Instant)
    (e : WalletError) (writes : List Store.Write) : Prop :=
  match e with
  | .storage _ => ∀ write ∈ writes, MayWrite new? forgets write
  | .locked =>
    writes = [] ∧ slots.lookup? sessionKey = none
      ∨ writes = [.delete sessionKey .done] ∧ Stale slots now
  | _ => writes = []

/-- To have written nothing is always excused, but for a locked wallet that has a session. -/
theorem Excused.nil {new? : Option Record} {forgets : Bool} {slots : Slots} {now : Instant}
    {e : WalletError} (h : e ≠ .locked) : Excused new? forgets slots now e [] := by
  cases e with
  | locked => exact absurd rfl h
  | storage s => exact fun _ hwrite => absurd hwrite List.not_mem_nil
  | _ => rfl

/-! ### What is left after a failure -/

/-- What may be under the wallet's key once writes of a call have failed: what was there, nothing
if the call is meant to remove it, or the call's own record in full. -/
inductive WalletSlot (new? : Option Record) (forgets : Bool) (old : Option Store.Slot) :
    Option Store.Slot → Prop where
  | kept : WalletSlot new? forgets old old
  | forgotten (meant : forgets = true) : WalletSlot new? forgets old none
  | replaced (record : Record) (made : new? = some record) :
      WalletSlot new? forgets old (some (.text record.text))

/-- What may be under the session's key then: what was there, nothing, or a session in full. -/
inductive SessionSlot (old : Option Store.Slot) : Option Store.Slot → Prop where
  | kept : SessionSlot old old
  | ended : SessionSlot old none
  | put (session : Session) : SessionSlot old (some (.text session.text))

section
variable {new? : Option Record} {forgets : Bool} {slots : Slots} {old : Option Store.Slot}

/-- One write of a call leaves the wallet's key with one of these. -/
theorem MayWrite.walletSlot {write : Store.Write} (h : MayWrite new? forgets write)
    (hold : WalletSlot new? forgets old (slots.lookup? walletKey)) :
    WalletSlot new? forgets old ((slots.apply write).lookup? walletKey) := by
  cases h with
  | endSession fate =>
      rw [Store.Write.lookup?_apply_ne slots _ Store.walletKey_ne_sessionKey]
      exact hold
  | putSession session fate =>
      rw [Store.Write.lookup?_apply_ne slots _ Store.walletKey_ne_sessionKey]
      exact hold
  | putRecord record fate made =>
      cases fate with
      | refused => exact hold
      | _ =>
          show WalletSlot _ _ _ ((slots.insert walletKey _).lookup? walletKey)
          rw [Store.Slots.lookup?_insert_self]
          exact .replaced record made
  | forget fate meant =>
      cases fate with
      | refused => exact hold
      | _ =>
          show WalletSlot _ _ _ ((slots.erase walletKey).lookup? walletKey)
          rw [Store.Slots.lookup?_erase_self]
          exact .forgotten meant

/-- One write of a call leaves the session's key with one of these. -/
theorem MayWrite.sessionSlot {write : Store.Write} (h : MayWrite new? forgets write)
    (hold : SessionSlot old (slots.lookup? sessionKey)) :
    SessionSlot old ((slots.apply write).lookup? sessionKey) := by
  cases h with
  | endSession fate =>
      cases fate with
      | refused => exact hold
      | _ =>
          show SessionSlot _ ((slots.erase sessionKey).lookup? sessionKey)
          rw [Store.Slots.lookup?_erase_self]
          exact .ended
  | putSession session fate =>
      cases fate with
      | refused => exact hold
      | _ =>
          show SessionSlot _ ((slots.insert sessionKey _).lookup? sessionKey)
          rw [Store.Slots.lookup?_insert_self]
          exact .put session
  | putRecord record fate made =>
      rw [Store.Write.lookup?_apply_ne slots _ Store.sessionKey_ne_walletKey]
      exact hold
  | forget fate meant =>
      rw [Store.Write.lookup?_apply_ne slots _ Store.sessionKey_ne_walletKey]
      exact hold

/-- So do all of them together. -/
theorem slots_replay_mayWrite {writes : List Store.Write} {old' : Option Store.Slot}
    (h : ∀ write ∈ writes, MayWrite new? forgets write)
    (hwallet : WalletSlot new? forgets old (slots.lookup? walletKey))
    (hsession : SessionSlot old' (slots.lookup? sessionKey)) :
    WalletSlot new? forgets old ((slots.replay writes).lookup? walletKey)
      ∧ SessionSlot old' ((slots.replay writes).lookup? sessionKey) := by
  induction writes generalizing slots with
  | nil => exact ⟨hwallet, hsession⟩
  | cons write writes ih =>
      have hwrite := h write List.mem_cons_self
      exact ih (fun more hmore => h more (List.mem_cons_of_mem _ hmore))
        (hwrite.walletSlot hwallet) (hwrite.sessionSlot hsession)

/-- Every write that is allowed is under one of the two keys. -/
theorem MayWrite.key_mem {write : Store.Write} (h : MayWrite new? forgets write) :
    write.key ∈ Store.bothKeys := by
  cases h <;> simp [Store.bothKeys, Store.Write.key]

/-- No error lets a call write under other keys. -/
theorem Excused.key_mem {now : Instant} {e : WalletError} {writes : List Store.Write}
    (h : Excused new? forgets slots now e writes) :
    ∀ write ∈ writes, write.key ∈ Store.bothKeys := by
  have hnil (hnil : writes = []) : ∀ write ∈ writes, write.key ∈ Store.bothKeys := by
    rw [hnil]
    exact fun write hwrite => absurd hwrite List.not_mem_nil
  cases e with
  | storage s => exact fun write hwrite => (h write hwrite).key_mem
  | locked =>
      rcases h with ⟨h, -⟩ | ⟨rfl, -⟩
      · exact hnil h
      · decide
  | _ => exact hnil h

end

/-- What a failure with this error has done, where the clock was read at these instants. -/
structure Harmless (before after : World) (readings : List Instant) (new? : Option Record)
    (forgets : Bool) (e : WalletError) : Prop where
  /-- A refusal attempts no write at all. -/
  refused : e ≠ .locked → (∀ s, e ≠ .storage s) →
    after.store.journal = before.store.journal ∧ after.store.slots = before.store.slots
  /-- A locked wallet had no session, or one that was good for nothing. -/
  locked : e = .locked →
    after.store.slots.lookup? walletKey = before.store.slots.lookup? walletKey
      ∧ after.store.slots.lookup? sessionKey = none
      ∧ (before.store.slots.lookup? sessionKey = none
            ∧ after.store.journal = before.store.journal
          ∨ ∃ now ∈ readings, Stale before.store.slots now)
  /-- A store that fails leaves nothing by halves. -/
  storage : ∀ s, e = .storage s →
    WalletSlot new? forgets (before.store.slots.lookup? walletKey)
        (after.store.slots.lookup? walletKey)
      ∧ SessionSlot (before.store.slots.lookup? sessionKey)
        (after.store.slots.lookup? sessionKey)
  /-- What else is in the store is nobody's concern. -/
  elsewhere : ∀ key ∉ Store.bothKeys,
    after.store.slots.lookup? key = before.store.slots.lookup? key

/-- Writes that are excused do no harm. -/
theorem Harmless.of_excused {before after : World} {readings : List Instant}
    {new? : Option Record} {forgets : Bool} {e : WalletError} {now : Instant}
    {writes : List Store.Write} (hnow : now ∈ readings)
    (hjournal : after.store.journal = before.store.journal ++ writes)
    (hslots : after.store.slots = before.store.slots.replay writes)
    (h : Excused new? forgets before.store.slots now e writes) :
    Harmless before after readings new? forgets e where
  refused := by
    intro hlocked hstorage
    have hnil : writes = [] := by
      cases e with
      | storage s => exact absurd rfl (hstorage s)
      | locked => exact absurd rfl hlocked
      | _ => exact h
    subst hnil
    exact ⟨by rw [hjournal, List.append_nil], hslots⟩
  locked := by
    rintro rfl
    rcases h with ⟨rfl, hslot⟩ | ⟨rfl, hstale⟩
    · have hsame : after.store.slots = before.store.slots := hslots
      refine ⟨by rw [hsame], by rw [hsame, hslot], .inl ⟨hslot, ?_⟩⟩
      rw [hjournal, List.append_nil]
    · have herased : after.store.slots = before.store.slots.erase sessionKey := hslots
      refine ⟨?_, ?_, .inr ⟨now, hnow, hstale⟩⟩
      · rw [herased, Store.Slots.lookup?_erase_ne Store.walletKey_ne_sessionKey]
      · rw [herased, Store.Slots.lookup?_erase_self]
  storage := by
    rintro s rfl
    rw [hslots]
    exact slots_replay_mayWrite h .kept .kept
  elsewhere := by
    intro key hkey
    rw [hslots]
    exact Wallet.lookup?_replay_of_keys hkey h.key_mem

/-- To have left the store alone is to have done no harm, but where the wallet is said to be
locked. -/
theorem Harmless.of_still {before after : World} {readings : List Instant}
    {new? : Option Record} {forgets : Bool} {e : WalletError} (h : e ≠ .locked)
    (hjournal : after.store.journal = before.store.journal)
    (hslots : after.store.slots = before.store.slots) :
    Harmless before after readings new? forgets e where
  refused _ _ := ⟨hjournal, hslots⟩
  locked he := absurd he h
  storage _ _ := by
    rw [hslots]
    exact ⟨.kept, .kept⟩
  elsewhere _ _ := by rw [hslots]

/-- What was done from a world with the same store was done from this one. -/
theorem Harmless.of_same {before between after : World} {readings wider : List Instant}
    {new? : Option Record} {forgets : Bool} {e : WalletError}
    (h : Harmless between after readings new? forgets e)
    (hjournal : between.store.journal = before.store.journal)
    (hslots : between.store.slots = before.store.slots) (hreadings : readings ⊆ wider) :
    Harmless before after wider new? forgets e := by
  obtain ⟨hrefused, hlocked, hstorage, helsewhere⟩ := h
  rw [hjournal, hslots] at hrefused
  rw [hjournal, hslots] at hlocked
  rw [hslots] at hstorage helsewhere
  refine ⟨hrefused, fun he => ?_, hstorage, helsewhere⟩
  obtain ⟨hwallet, hsession, hreason⟩ := hlocked he
  refine ⟨hwallet, hsession, hreason.imp_right ?_⟩
  rintro ⟨now, hnow, hstale⟩
  exact ⟨now, hreadings hnow, hstale⟩

end Custody
