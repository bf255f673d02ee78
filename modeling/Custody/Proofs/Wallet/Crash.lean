import Custody.Proofs.Wallet.Consistent
import Custody.Proofs.Wallet.History
import Custody.Proofs.Wallet.Outcome

/-!
# `Custody.Proofs.Wallet.Crash`: no crash leaves a session without its wallet

Every command of the wallet is safe (`Call.safe`): it may be cut after any of its writes, and
any of them may be lost or refused, and the slots are consistent. What each proof says is why
the command's writes come in the order in which they do.

`Reached` are the slots that calls can leave behind, whole or cut short, on a store that may
fail. `consistent_at_every_cut` is the result: they are all consistent.
-/

set_option autoImplicit false

namespace Custody

open Time Command
open Store (Slots walletKey sessionKey)

/-- The keys under which the wallet keeps anything. -/
def Store.bothKeys : List String := [walletKey, sessionKey]

open Store (bothKeys)

/-- The key of the session is one of the two. -/
theorem Store.sessionKey_subset : [sessionKey] ⊆ bothKeys := List.subset_cons_self _ _

/-! ### The wallet's commands -/

namespace Session

/-- Ending a session is safe, and removes it. -/
theorem safe_finish {pre : Slots → Prop} :
    Safe [sessionKey] pre finish fun _ slots =>
      ∃ before, pre before ∧ slots = before.erase sessionKey :=
  Safe.delete (List.mem_singleton_self _) fun _ hconsistent _ => hconsistent.erase_session

/-- A session that is found to be live is kept. -/
theorem safe_live {pre : Slots → Prop} : Safe [sessionKey] pre live fun found slots =>
    ∀ session, found = some session → slots.KeepsSession session := by
  -- A session that does not read and one that has expired are both removed, with the
  -- same answer.
  have hremove : Safe [sessionKey] pre (finish >>= fun _ => pure none)
      fun (found : Option Session) slots =>
        ∀ session, found = some session → slots.KeepsSession session := by
    refine safe_finish.bind fun _ => (Safe.pure none).weaken (fun _ h => h) ?_
    rintro _ slots - ⟨rfl, -⟩ session hsession
    cases hsession
  refine (Safe.get sessionKey).bind fun found => ?_
  cases found with
  | none =>
      refine (Safe.pure none).weaken (fun _ h => h) ?_
      rintro _ slots - ⟨rfl, -⟩ session hsession
      cases hsession
  | some text =>
      simp only
      cases hread : ofText? text with
      | none => exact hremove.weaken (fun _ h => h.2) fun _ _ _ h => h
      | some session =>
          refine Safe.now.bind fun t => ?_
          split
          · refine (Safe.pure (some session)).weaken (fun _ h => h) ?_
            rintro _ slots - ⟨rfl, hslot, -⟩ found hfound
            cases hfound
            exact ⟨text, hslot, hread⟩
          · exact hremove.weaken (fun _ h => h.2) fun _ _ _ h => h

/-- A session of the record's key may be started. -/
theorem safe_start {record : Record} {keypair : Keypair} (length : Span)
    (haddress : record.address = record.publicKey)
    (hshown : keypair.publicKey.toHex = record.publicKey) :
    Safe [sessionKey] (·.KeepsRecord record) (start length keypair.secretHex) fun _ _ => True := by
  refine Safe.now.bind fun t => ?_
  refine (Safe.set (List.mem_singleton_self _) ?_).bind fun _ => Safe.value _
  intro slots _ hkeeps
  exact Consistent.insert_session hkeeps haddress (Keypair.ofHex_secretHex keypair) hshown

/-- Putting off the end of a session keeps its key. -/
theorem safe_refresh {pre : Slots → Prop} (length : Span) :
    Safe [sessionKey] pre (refresh length) fun _ _ => True := by
  refine safe_live.bind fun found => ?_
  cases found with
  | none => exact Safe.value false
  | some session =>
      refine Safe.now.bind fun t => ?_
      refine (Safe.set (List.mem_singleton_self _) ?_).bind fun _ => Safe.value true
      intro slots hconsistent hkeeps
      obtain ⟨record, keypair, hrecord, hkey, hshown⟩ :=
        hconsistent.session_key (hkeeps session rfl)
      exact Consistent.insert_session hrecord (hconsistent.address hrecord) hkey hshown

/-- Asking for the secret is safe. -/
theorem safe_secret {pre : Slots → Prop} : Safe [sessionKey] pre secret fun _ _ => True := by
  refine safe_live.bind fun found => ?_
  cases found with
  | none => exact Safe.fail .locked
  | some session => exact Safe.value _

/-- Asking whether the wallet is unlocked is safe. -/
theorem safe_isUnlocked {pre : Slots → Prop} :
    Safe [sessionKey] pre isUnlocked fun _ _ => True := by
  refine safe_live.attempt.bind fun found => ?_
  cases found with
  | none => exact Safe.value false
  | some session => exact Safe.value _

/-- Asking for the deadline is safe. -/
theorem safe_deadline {pre : Slots → Prop} : Safe [sessionKey] pre deadline fun _ _ => True :=
  safe_live.bind fun _ => Safe.value _

end Session

namespace Keystore

/-- A record that was loaded is kept. -/
theorem safe_load {keys : List String} {pre : Slots → Prop} : Safe keys pre load fun found slots =>
    ∀ record, found = some record → slots.KeepsRecord record := by
  refine (Safe.get walletKey).bind fun found => ?_
  cases found with
  | none =>
      refine (Safe.pure none).weaken (fun _ h => h) ?_
      rintro _ slots - ⟨rfl, -⟩ record hrecord
      cases hrecord
  | some text =>
      refine (Safe.answer (decode text)).bind fun record => ?_
      refine (Safe.pure (some record)).weaken (fun _ h => h) ?_
      rintro _ slots - ⟨rfl, hdecode, hslot, -⟩ found hfound
      cases hfound
      exact ⟨text, hslot, hdecode⟩

/-- Asking for the record is safe, and finds one that is kept. -/
theorem safe_require {keys : List String} {pre : Slots → Prop} :
    Safe keys pre require fun record slots => slots.KeepsRecord record := by
  refine safe_load.bind fun found => ?_
  cases found with
  | none => exact Safe.fail .noWallet
  | some record =>
      refine (Safe.pure record).weaken (fun _ h => h) ?_
      rintro found slots - ⟨rfl, hkeeps⟩
      exact hkeeps found rfl

/-- The session goes first, so that the record may go. -/
theorem safe_delete {pre : Slots → Prop} : Safe bothKeys pre delete fun _ _ => True := by
  refine (Session.safe_finish.widen Store.sessionKey_subset).bind fun _ =>
    (Safe.delete List.mem_cons_self ?_).weaken (fun _ h => h) fun _ _ _ _ => trivial
  -- No session is left to go with the record.
  rintro slots - ⟨before, -, rfl⟩
  exact Consistent.erase_record Store.Slots.lookup?_erase_self

end Keystore

namespace Wallet

variable {pre : Slots → Prop} (settings : Settings)

/-- The old session goes before the new record comes, and the new session comes last. -/
theorem safe_install (keypair : Keypair) (phrase password : String) :
    Safe bothKeys pre (install settings keypair phrase password) fun _ _ => True := by
  refine Safe.now.bind fun createdAt => ?_
  refine (Safe.onTape _).bind fun record => Safe.given ?_
  rintro ⟨tape, after, hmake⟩
  obtain ⟨hshows, -⟩ := Record.make_spec hmake
  -- From here on there is no session, and any record may come.
  refine (Session.safe_finish.widen Store.sessionKey_subset).bind fun _ => ?_
  refine (Safe.set List.mem_cons_self ?_).bind fun _ => ?_
  · rintro slots - ⟨before, -, rfl⟩
    exact Consistent.insert_record Store.Slots.lookup?_erase_self hshows
  -- Now the record of the key pair is there, and a session of it may follow.
  have hstart : Safe bothKeys (·.KeepsRecord record.asRead)
      (Session.start settings.session keypair.secretHex) fun _ _ => True :=
    (Session.safe_start _ (by rw [hshows.asRead.address, hshows.asRead.publicKey])
      hshows.asRead.publicKey.symm).widen Store.sessionKey_subset
  refine (hstart.weaken ?_ fun _ _ _ h => h).bind fun _ => Safe.value record
  rintro slots ⟨before, -, rfl⟩
  exact Store.Slots.keepsRecord_insert before hshows.version

/-- Making a wallet is safe. -/
theorem safe_create (password : String) :
    Safe bothKeys pre (create settings password) fun _ _ => True := by
  unfold create
  simp only
  split
  · refine (Safe.onTape _).bind fun phrase => ?_
    exact (safe_install settings phrase.keypair phrase.text password).bind fun _ => Safe.value _
  · exact Safe.fail _

/-- Looking whether a password is empty writes nothing. -/
theorem safe_requireNonempty {keys : List String} (password : String) :
    Safe keys pre (requireNonempty password) fun _ _ => True := by
  unfold requireNonempty
  split
  · exact Safe.fail _
  · exact Safe.value ()

/-- Restoring a wallet is safe. -/
theorem safe_restore (typed password : String) :
    Safe bothKeys pre (restore settings typed password) fun _ _ => True := by
  refine (safe_requireNonempty password).bind fun _ => ?_
  cases Phrase.parse typed with
  | error fault => exact Safe.fail _
  | ok phrase =>
      exact (safe_install settings phrase.keypair phrase.text password).bind fun _ => Safe.value _

/-- The key that a password opens is the record's, so a session of it may be started. -/
theorem safe_unlock (password : String) :
    Safe [sessionKey] pre (unlock settings password) fun _ _ => True := by
  refine Keystore.safe_require.bind fun record => ?_
  refine (Safe.answer _).bind fun keypair => Safe.given fun hopen => ?_
  have hstart : Safe [sessionKey] (·.KeepsRecord record)
      (Session.start settings.session keypair.secretHex) fun _ _ => True := by
    intro world hconsistent hkeeps
    exact Session.safe_start settings.session (hconsistent.address hkeeps)
      (Record.publicKey_of_openKeypair hopen) world hconsistent hkeeps
  exact hstart.bind fun _ => Safe.value _

/-- A record that was sealed again shows the same key, so any session may stay. -/
theorem safe_changePassword (old new : String) :
    Safe bothKeys pre (changePassword settings old new) fun _ _ => True := by
  refine (safe_requireNonempty new).bind fun _ => ?_
  refine Keystore.safe_require.bind fun record => ?_
  refine (Safe.onTape _).bind fun resealed => Safe.given ?_
  rintro ⟨tape, after, hreseal⟩
  -- What the old password opened is the key that the old record shows, and that the new
  -- record shows.
  obtain ⟨keypair, phrase, ⟨hopen, -⟩, hshows, -⟩ := Record.reseal_spec hreseal
  refine (Safe.set List.mem_cons_self ?_).weaken (fun _ h => h) fun _ _ _ _ => trivial
  intro slots hconsistent hkeeps
  exact hconsistent.replace_record hkeeps hshows (Record.publicKey_of_openKeypair hopen)

/-- Asking for the key of the live session is safe. -/
theorem safe_unlockedKeypair (record : Record) :
    Safe [sessionKey] pre (unlockedKeypair record) fun _ _ => True := by
  refine Session.safe_secret.bind fun secret => ?_
  -- A session that does not fit the record is removed before the command fails.
  have hlocked : Safe [sessionKey] (fun _ => True)
      (Session.finish >>= fun _ => (Command.fail .locked : Command Keypair)) fun _ _ => True :=
    Session.safe_finish.bind fun _ => Safe.fail .locked
  cases Keypair.ofHex secret with
  | error e => exact hlocked
  | ok keypair =>
      simp only
      split
      · exact Safe.value keypair
      · exact hlocked

/-- Exporting the phrase is safe. -/
theorem safe_exportPhrase (password : String) :
    Safe [sessionKey] pre (exportPhrase password) fun _ _ => True := by
  refine Keystore.safe_require.bind fun record => ?_
  exact (safe_unlockedKeypair record).bind fun _ =>
    (Safe.answer _).weaken (fun _ h => h) fun _ _ _ _ => trivial

/-- Exporting the key is safe. -/
theorem safe_exportKey (password : String) :
    Safe [sessionKey] pre (exportKey password) fun _ _ => True := by
  refine Keystore.safe_require.bind fun record => ?_
  refine (safe_unlockedKeypair record).bind fun _ => ?_
  exact (Safe.answer _).bind fun _ => Safe.value _

/-- Reading an address writes nothing. -/
theorem safe_receiver {keys : List String} (typed : String) :
    Safe keys pre (receiver typed) fun _ _ => True := by
  unfold receiver
  split
  · exact Safe.fail _
  · exact Safe.value _

/-- Signing a transfer is safe. -/
theorem safe_signTransfer (typed : String) (amount nonce : UInt64) :
    Safe [sessionKey] pre (signTransfer typed amount nonce) fun _ _ => True := by
  refine Keystore.safe_require.bind fun record => ?_
  refine (safe_unlockedKeypair record).bind fun keypair => ?_
  refine (safe_receiver typed).bind fun payee => ?_
  simp only
  split
  · exact Safe.value _
  · exact Safe.fail _

/-- Preparing a transfer is safe. -/
theorem safe_prepare (typed : String) : Safe [sessionKey] pre (prepare typed) fun _ _ => True := by
  refine Keystore.safe_require.bind fun record => ?_
  refine (safe_unlockedKeypair record).bind fun _ => ?_
  exact (safe_receiver typed).bind fun _ => Safe.value _

/-- Making a submission is safe. -/
theorem safe_signSubmission (typed : String) (amount nonce : UInt64) :
    Safe [sessionKey] pre (signSubmission typed amount nonce) fun _ _ => True := by
  refine (safe_signTransfer typed amount nonce).bind fun tx => ?_
  cases tx.toSubmission with
  | none => exact Safe.fail _
  | some submission => exact Safe.value _

/-- Asking for the state is safe. -/
theorem safe_state : Safe [sessionKey] pre state fun _ _ => True := by
  -- Every state is told as it is, or after a session that fits nothing was removed.
  have hfinish : ∀ (pre : Slots → Prop) (state : State),
      Safe [sessionKey] pre (Session.finish >>= fun _ => pure state) fun _ _ => True :=
    fun pre state => Session.safe_finish.bind fun _ => Safe.value _
  have hpure : ∀ (pre : Slots → Prop) (state : State),
      Safe [sessionKey] pre (pure state : Command State) fun _ _ => True :=
    fun pre state => Safe.value _
  refine Keystore.safe_load.bind fun found => ?_
  cases found with
  | none =>
      refine Session.safe_live.bind fun session => ?_
      split
      · exact hfinish _ _
      · exact hpure _ _
  | some record =>
      refine Session.safe_live.bind fun session => ?_
      cases session with
      | none => exact hpure _ _
      | some session =>
          simp only
          cases Keypair.ofHex session.privateKey with
          | error e => exact hfinish _ _
          | ok keypair =>
              simp only
              split
              · exact hpure _ _
              · exact hfinish _ _

/-- A tick of the timer is safe. -/
theorem safe_autoLock : Safe [sessionKey] pre autoLock fun _ _ => True := by
  intro world hconsistent hpre
  unfold autoLock
  rw [runIn_discard]
  exact ⟨(Session.safe_isUnlocked world hconsistent hpre).1, fun _ _ => trivial⟩

/-- The keys that a call may write under: only four calls ever touch the record. -/
def Call.keys : Call → List String
  | .create _ => bothKeys
  | .restore _ _ => bothKeys
  | .delete => bothKeys
  | .changePassword _ _ => bothKeys
  | _ => [sessionKey]

/-- Whatever is called, it may be cut anywhere. -/
theorem Call.safe (call : Call) :
    Safe call.keys (fun _ => True) (call.command settings) fun _ _ => True := by
  cases call with
  | create password => exact (safe_create settings password).map _
  | restore typed password => exact (safe_restore settings typed password).map _
  | unlock password => exact (safe_unlock settings password).map _
  | lock => exact Session.safe_finish.map _
  | delete => exact Keystore.safe_delete.map _
  | changePassword old new => exact (safe_changePassword settings old new).map _
  | touch => exact (Session.safe_refresh settings.session).map _
  | isUnlocked => exact Session.safe_isUnlocked.map _
  | expiresAt => exact Session.safe_deadline.map _
  | state => exact safe_state.map _
  | exportPhrase password => exact (safe_exportPhrase password).map _
  | exportKey password => exact (safe_exportKey password).map _
  | sign typed amount nonce => exact (safe_signTransfer typed amount nonce).map _
  | prepare typed => exact (safe_prepare typed).map _
  | submission typed amount nonce => exact (safe_signSubmission typed amount nonce).map _
  | tick => exact (safe_autoLock).map _

/-! ### Runs that may be cut short -/

/-- The writes that a call makes. -/
def Call.writes (settings : Settings) (world : World) (call : Call) : List Store.Write :=
  (call.outcome settings world).2.store.journal.drop world.store.journal.length

/-- A call that starts in consistent slots keeps them so at every one of its writes. -/
theorem Call.writes_spec (world : World) (call : Call) (h : Consistent world.store.slots) :
    (call.outcome settings world).2.store.slots
        = world.store.slots.replay (call.writes settings world)
      ∧ (∀ write ∈ call.writes settings world, write.key ∈ call.keys)
      ∧ ∀ n, Consistent (world.store.slots.replay ((call.writes settings world).take n)) := by
  obtain ⟨⟨writes, hfollows, hkeys, hcuts⟩, -⟩ := call.safe settings world h trivial
  -- The journal only grows, so what is new in it is what the call has written.
  have hwrites : call.writes settings world = writes := by
    unfold Call.writes Call.outcome
    rw [hfollows.journal, List.drop_left]
  rw [hwrites]
  exact ⟨hfollows.slots, hkeys, hcuts⟩

/-- A call that was not cut leaves a consistent store. -/
theorem Call.writes_end (world : World) (call : Call) (h : Consistent world.store.slots) :
    Consistent (call.outcome settings world).2.store.slots := by
  obtain ⟨hslots, -, hcuts⟩ := call.writes_spec settings world h
  have hend := hcuts (call.writes settings world).length
  rw [List.take_length, ← hslots] at hend
  exact hend

/-- The slots that calls leave behind, from an empty store on. Every call meets a world of its
own, with any clock, any tape and any fate of every access to the store. It may run to its end
or be cut after any of its writes. -/
inductive Reached : Slots → Prop where
  | empty : Reached []
  | call (settings : Settings) (world : World) (call : Call)
      (reached : Reached world.store.slots) :
      Reached (call.outcome settings world).2.store.slots
  | cut (settings : Settings) (world : World) (call : Call) (n : Nat)
      (reached : Reached world.store.slots) :
      Reached (world.store.slots.replay ((call.writes settings world).take n))

/-- What the wallet has written, as far as it came, is consistent. -/
theorem Reached.consistent {slots : Slots} (h : Reached slots) : Consistent slots := by
  induction h with
  | empty => exact .empty
  | call settings world call reached ih => exact call.writes_end settings world ih
  | cut settings world call n reached ih =>
      obtain ⟨-, -, hcuts⟩ := call.writes_spec settings world ih
      exact hcuts n

/-- Writes under some keys leave what is under any other. -/
theorem lookup?_replay_of_keys {slots : Slots} {writes : List Store.Write} {key : String}
    {keys : List String} (hkey : key ∉ keys) (hkeys : ∀ write ∈ writes, write.key ∈ keys) :
    (slots.replay writes).lookup? key = slots.lookup? key := by
  induction writes generalizing slots with
  | nil => rfl
  | cons write writes ih =>
      have hne : key ≠ write.key := by
        intro heq
        rw [heq] at hkey
        exact hkey (hkeys write List.mem_cons_self)
      show ((slots.apply write).replay writes).lookup? key = _
      rw [ih fun write hwrite => hkeys write (List.mem_cons_of_mem _ hwrite),
        Store.Write.lookup?_apply_ne slots write hne]

/-- No call writes under other keys than the wallet's. -/
theorem Call.keys_subset (call : Call) : call.keys ⊆ bothKeys := by
  cases call with
  | create password => exact List.Subset.refl _
  | restore typed password => exact List.Subset.refl _
  | delete => exact List.Subset.refl _
  | changePassword old new => exact List.Subset.refl _
  | _ => exact Store.sessionKey_subset

/-- Nothing is ever kept under other keys. -/
theorem Reached.lookup?_other {slots : Slots} (h : Reached slots) {key : String}
    (hkey : key ∉ bothKeys) : slots.lookup? key = none := by
  induction h with
  | empty => rfl
  | call settings world call reached ih =>
      obtain ⟨hslots, hkeys, -⟩ := call.writes_spec settings world reached.consistent
      rw [hslots, lookup?_replay_of_keys hkey fun write hwrite =>
        call.keys_subset (hkeys write hwrite)]
      exact ih
  | cut settings world call n reached ih =>
      obtain ⟨-, hkeys, -⟩ := call.writes_spec settings world reached.consistent
      rw [lookup?_replay_of_keys hkey fun write hwrite =>
        call.keys_subset (hkeys write (List.mem_of_mem_take hwrite))]
      exact ih

/-! ### A fresh start -/

/-- The calls that do not depend on what was there. -/
def Call.StartsOver : Call → Prop
  | .create _ => True
  | .restore _ _ => True
  | .delete => True
  | _ => False

/-- A wallet that was put in place is consistent. -/
theorem consistent_installed {record : Record} {keypair : Keypair} (hshows : record.Shows keypair)
    (now : Instant) (slots : Slots) :
    Consistent (installed settings keypair record now slots) := by
  have haddress : record.asRead.address = record.asRead.publicKey := by
    rw [hshows.asRead.address, hshows.asRead.publicKey]
  exact Consistent.insert_session (Store.Slots.keepsRecord_insert _ hshows.version) haddress
    (Keypair.ofHex_secretHex keypair) hshows.asRead.publicKey.symm

/-- From whatever was there, a call that starts over and succeeds makes it consistent. -/
theorem Call.StartsOver.consistent {call : Call} (hcall : call.StartsOver) {world after : World}
    {answer : Answer} (h : (call.command settings).runIn world = (.ok answer, after)) :
    Consistent after.store.slots := by
  cases call with
  | create password =>
      obtain ⟨created, hrun, -⟩ := runIn_map_eq_ok h
      obtain ⟨-, phrase, record, -, -, -, hslots, hshows, -⟩ := create_eq_ok hrun
      rw [hslots]
      exact consistent_installed settings hshows _ _
  | restore typed password =>
      obtain ⟨summary, hrun, -⟩ := runIn_map_eq_ok h
      obtain ⟨phrase, record, -, -, hslots, hshows, -⟩ := restore_eq_ok hrun
      rw [hslots]
      exact consistent_installed settings hshows _ _
  | delete =>
      obtain ⟨u, hrun, -⟩ := runIn_map_eq_ok h
      rw [delete_eq_ok hrun]
      exact Consistent.erase_record Store.Slots.lookup?_erase_self
  | _ => exact hcall.elim

/-- In every state that calls lead to from an empty store, also where writes fail or the run is
cut, the record and the session are consistent and nothing is kept under other keys. No call
writes under other keys. And whatever a store holds, a call that starts over and succeeds makes
it consistent. -/
theorem consistent_at_every_cut :
    (∀ slots, Reached slots → Consistent slots
        ∧ ∀ key, key ∉ bothKeys → slots.lookup? key = none)
      ∧ (∀ (settings : Settings) (world : World) (call : Call), Reached world.store.slots →
          ∀ write ∈ call.writes settings world, write.key ∈ bothKeys)
      ∧ ∀ (settings : Settings) (world after : World) (call : Call) (answer : Answer),
          call.StartsOver → call.outcome settings world = (.ok answer, after) →
            Consistent after.store.slots := by
  refine ⟨?_, ?_, ?_⟩
  · intro slots h
    exact ⟨h.consistent, fun key hkey => h.lookup?_other hkey⟩
  · intro settings world call h write hwrite
    obtain ⟨-, hkeys, -⟩ := call.writes_spec settings world h.consistent
    exact call.keys_subset (hkeys write hwrite)
  · intro settings world after call answer hcall h
    exact hcall.consistent settings h

/-- There is such a state with a session in it: a wallet was just made. -/
theorem consistent_at_every_cut_created :
    ∃ slots, Reached slots ∧ slots.lookup? sessionKey ≠ none ∧ Consistent slots := by
  let settings : Settings := ⟨.ofSeconds 1800, .light⟩
  let world : World := World.calm ⟨Store.empty, .epoch, .ofBytes [7]⟩ .epoch
  let call : Call := .create "Correct-Horse-42"
  obtain ⟨created, after, hrun⟩ := exists_created
  have houtcome : (call.outcome settings world).2 = after := by
    show ((Answer.created <$> create settings "Correct-Horse-42").runIn world).2 = after
    rw [runIn_map, hrun]
  obtain ⟨-, phrase, record, -, -, -, hslots, -, -⟩ := create_eq_ok hrun
  have hreached : Reached after.store.slots := by
    rw [← houtcome]
    exact .call settings world call .empty
  refine ⟨after.store.slots, hreached, ?_, (consistent_at_every_cut.1 _ hreached).1⟩
  rw [hslots]
  exact (Store.Slots.keepsSession_insert _ _).lookup?_ne_none

end Wallet

end Custody
