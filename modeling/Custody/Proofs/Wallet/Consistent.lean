import Custody.Proofs.Sealed
import Custody.Proofs.Wallet.Kept

/-!
# `Custody.Proofs.Wallet.Consistent`: no session without its wallet, at any moment

`Consistent` is what has to hold of the slots at every moment: a record that is there loads and
shows one identity, and a session that is there has the key of the record that is there too.

`Guarded` says that one world follows another through writes after each of which the slots are
consistent, so that the run may be cut at any of them. `Safe` says of a command that it does
nothing but that, whatever becomes of its writes, and what it leaves behind where it succeeds.
It composes along the chain of steps that a command is: each kind of step has its rule, and
`Safe.bind` joins them.
-/

set_option autoImplicit false

namespace Custody

open Time Command
open Store (Slots walletKey sessionKey)

/-! ### Consistent slots -/

/-- A record that is there loads and shows its public key as its address. A session that is
there has the key of the record that is there too. -/
structure Consistent (slots : Slots) : Prop where
  record : slots.lookup? walletKey ≠ none →
    ∃ record, slots.KeepsRecord record ∧ record.version = recordVersion
      ∧ record.address = record.publicKey
  session : slots.lookup? sessionKey ≠ none →
    ∃ record session keypair, slots.KeepsRecord record ∧ slots.KeepsSession session
      ∧ Keypair.ofHex session.privateKey = .ok keypair
      ∧ keypair.publicKey.toHex = record.publicKey

namespace Consistent

variable {slots : Slots} {record : Record} {session : Session} {keypair : Keypair}

/-- An empty store is consistent. -/
theorem empty : Consistent [] :=
  ⟨fun h => absurd rfl h, fun h => absurd rfl h⟩

/-- The record that is kept shows one identity. -/
theorem address (h : Consistent slots) (hkeeps : slots.KeepsRecord record) :
    record.address = record.publicKey := by
  obtain ⟨found, hfound, -, haddress⟩ := h.record hkeeps.lookup?_ne_none
  rw [hkeeps.unique hfound] at haddress
  exact haddress

/-- The session that is kept has the key of the record. -/
theorem session_key (h : Consistent slots) (hkeeps : slots.KeepsSession session) :
    ∃ record keypair, slots.KeepsRecord record ∧ Keypair.ofHex session.privateKey = .ok keypair
      ∧ keypair.publicKey.toHex = record.publicKey := by
  obtain ⟨record, found, keypair, hrecord, hfound, hkey, hshown⟩ :=
    h.session hkeeps.lookup?_ne_none
  rw [hkeeps.unique hfound] at hkey
  exact ⟨record, keypair, hrecord, hkey, hshown⟩

/-- A consistent store stays so when the session is removed. -/
theorem erase_session (h : Consistent slots) : Consistent (slots.erase sessionKey) := by
  constructor
  · intro hslot
    rw [Store.Slots.lookup?_erase_ne Store.walletKey_ne_sessionKey] at hslot
    obtain ⟨record, hkeeps, hrest⟩ := h.record hslot
    exact ⟨record, hkeeps.erase_session, hrest⟩
  · intro hslot
    exact absurd Store.Slots.lookup?_erase_self hslot

/-- The record may go once there is no session. -/
theorem erase_record (hsession : slots.lookup? sessionKey = none) :
    Consistent (slots.erase walletKey) := by
  constructor
  · intro hslot
    exact absurd Store.Slots.lookup?_erase_self hslot
  · intro hslot
    rw [Store.Slots.lookup?_erase_ne Store.sessionKey_ne_walletKey] at hslot
    exact absurd hsession hslot

/-- Any record may be put in place while there is no session. -/
theorem insert_record (hsession : slots.lookup? sessionKey = none)
    (hshows : record.Shows keypair) :
    Consistent (slots.insert walletKey (.text record.text)) := by
  constructor
  · intro _
    refine ⟨record.asRead, Store.Slots.keepsRecord_insert slots hshows.version, hshows.version, ?_⟩
    rw [hshows.asRead.address, hshows.asRead.publicKey]
  · intro hslot
    rw [Store.Slots.lookup?_insert_ne Store.sessionKey_ne_walletKey] at hslot
    exact absurd hsession hslot

/-- A record may be replaced by one of the same key. -/
theorem replace_record (h : Consistent slots) (hkeeps : slots.KeepsRecord record)
    {resealed : Record} (hshows : resealed.Shows keypair)
    (hsame : keypair.publicKey.toHex = record.publicKey) :
    Consistent (slots.insert walletKey (.text resealed.text)) := by
  -- The session stays, so its key has to be that of the new record as well.
  have hnew := Store.Slots.keepsRecord_insert slots hshows.version
  constructor
  · intro _
    refine ⟨resealed.asRead, hnew, hshows.version, ?_⟩
    rw [hshows.asRead.address, hshows.asRead.publicKey]
  · intro hslot
    rw [Store.Slots.lookup?_insert_ne Store.sessionKey_ne_walletKey] at hslot
    obtain ⟨found, session, opened, hfound, hsession, hkey, hshown⟩ := h.session hslot
    refine ⟨resealed.asRead, session, opened, hnew, hsession.insert_record _, hkey, ?_⟩
    rw [hshown, hkeeps.unique hfound, hshows.asRead.publicKey, hsame]

/-- A session of the record's key may be put in place of any other. -/
theorem insert_session (hkeeps : slots.KeepsRecord record)
    (haddress : record.address = record.publicKey)
    (hkey : Keypair.ofHex session.privateKey = .ok keypair)
    (hshown : keypair.publicKey.toHex = record.publicKey) :
    Consistent (slots.insert sessionKey (.text session.text)) := by
  have hrecord := hkeeps.insert_session (.text session.text)
  constructor
  · intro _
    exact ⟨record, hrecord, hrecord.version, haddress⟩
  · intro _
    exact ⟨record, session.asRead, keypair, hrecord,
      Store.Slots.keepsSession_insert slots session, hkey, hshown⟩

end Consistent

/-! ### Commands that may be cut short -/

/-- From one world to a later one, through writes under these keys only, with the slots
consistent before the first of them and after each. -/
def Guarded (keys : List String) (before after : World) : Prop :=
  ∃ writes, before.Follows after writes ∧ (∀ write ∈ writes, write.key ∈ keys)
    ∧ ∀ n, Consistent (before.store.slots.replay (writes.take n))

namespace Guarded

variable {keys : List String} {first second third world : World}

/-- Without writes, everything is guarded. -/
theorem of_no_writes (h : Consistent first.store.slots) (hfollows : first.Follows second []) :
    Guarded keys first second :=
  ⟨[], hfollows, by simp, by simpa using h⟩

/-- A guarded end is consistent. -/
theorem consistent (h : Guarded keys first second) : Consistent second.store.slots := by
  obtain ⟨writes, hfollows, -, hcuts⟩ := h
  have hend := hcuts writes.length
  rw [List.take_length, ← hfollows.slots] at hend
  exact hend

/-- A cut falls either into the first part or into the second. -/
theorem trans (h : Guarded keys first second) (h' : Guarded keys second third) :
    Guarded keys first third := by
  obtain ⟨writes, hfollows, hkeys, hcuts⟩ := h
  obtain ⟨more, hfollows', hkeys', hcuts'⟩ := h'
  refine ⟨writes ++ more, hfollows.trans hfollows', ?_, ?_⟩
  · intro write hwrite
    cases List.mem_append.mp hwrite with
    | inl hfirst => exact hkeys write hfirst
    | inr hsecond => exact hkeys' write hsecond
  · intro n
    rw [List.take_append]
    by_cases hn : n ≤ writes.length
    · -- Cut within the first part: nothing of the second is done.
      rw [Nat.sub_eq_zero_of_le hn, List.take_zero, List.append_nil]
      exact hcuts n
    · -- Cut within the second part, which starts where the first has ended.
      rw [List.take_of_length_le (by omega), Store.Slots.replay_append, ← hfollows.slots]
      exact hcuts' _

/-- A write may be lost or refused, so both the slots before it and those it makes have to be
consistent. -/
theorem wrote (note : Store.Fate → Store.Write) (fate : Store.Fate)
    (hkey : ∀ fate, (note fate).key ∈ keys)
    (hbefore : Consistent world.store.slots)
    (hafter : ∀ fate, Consistent (world.store.slots.apply (note fate))) :
    Guarded keys world (world.wrote (note fate)) := by
  refine ⟨[note fate], World.Follows.wrote world _, ?_, ?_⟩
  · intro write hwrite
    rw [List.mem_singleton.mp hwrite]
    exact hkey fate
  · intro n
    -- One write has two cuts: before it and after it.
    cases n with
    | zero => exact hbefore
    | succ n =>
        rw [List.take_succ_cons, List.take_nil]
        exact hafter fate

/-- What is guarded for some keys is guarded for more. -/
theorem widen {keys' : List String} (h : Guarded keys first second) (hkeys : keys ⊆ keys') :
    Guarded keys' first second := by
  obtain ⟨writes, hfollows, hwrites, hcuts⟩ := h
  exact ⟨writes, hfollows, fun write hwrite => hkeys (hwrites write hwrite), hcuts⟩

end Guarded

/-- Started in consistent slots that satisfy `pre`, the command writes under these keys only and
may be cut anywhere, and where it succeeds its answer and the slots satisfy `post`. -/
def Safe {α : Type} (keys : List String) (pre : Slots → Prop) (command : Command α)
    (post : α → Slots → Prop) : Prop :=
  ∀ world, Consistent world.store.slots → pre world.store.slots →
    Guarded keys world (command.runIn world).2
      ∧ ∀ a, (command.runIn world).1 = .ok a → post a (command.runIn world).2.store.slots

namespace Safe

variable {α β : Type} {keys : List String} {pre : Slots → Prop}

/-- A value alone is safe, and changes no slot. -/
theorem pure (a : α) : Safe keys pre (Pure.pure a) fun b slots => b = a ∧ pre slots := by
  intro world hconsistent hpre
  refine ⟨.of_no_writes hconsistent (.refl world), ?_⟩
  intro b hb
  exact ⟨(Except.ok.inj hb).symm, hpre⟩

/-- A result alone is safe, and changes no slot. -/
theorem answer (result : Except WalletError α) :
    Safe keys pre (Command.answer result) fun a slots => result = .ok a ∧ pre slots := by
  intro world hconsistent hpre
  exact ⟨.of_no_writes hconsistent (.refl world), fun a ha => ⟨ha, hpre⟩⟩

/-- A failure alone is safe, and there is no answer to say anything about. -/
theorem fail {post : α → Slots → Prop} (e : WalletError) :
    Safe keys pre (Command.fail e) post := by
  intro world hconsistent _
  refine ⟨.of_no_writes hconsistent (.refl world), ?_⟩
  intro a ha
  cases ha

/-- Reading the clock is safe, and changes no slot. -/
theorem now : Safe keys pre Command.now fun _ slots => pre slots := by
  intro world hconsistent hpre
  exact ⟨.of_no_writes hconsistent (.refl world), fun _ _ => hpre⟩

/-- What is drawn is some draw from the tape, and the store is not touched. -/
theorem onTape (draw : Tape → Except WalletError α × Tape) :
    Safe keys pre (Command.onTape draw) fun a slots =>
      (∃ tape after, draw tape = (.ok a, after)) ∧ pre slots := by
  intro world hconsistent hpre
  rw [runIn_onTape]
  refine ⟨.of_no_writes hconsistent ⟨by simp, rfl, rfl, rfl⟩, ?_⟩
  intro a ha
  exact ⟨⟨world.tape, _, Prod.ext ha rfl⟩, hpre⟩

/-- One command after another is safe if each of them is, from the slots that it finds. -/
theorem bind {command : Command α} {next : α → Command β} {mid : α → Slots → Prop}
    {post : β → Slots → Prop} (hfirst : Safe keys pre command mid)
    (hnext : ∀ a, Safe keys (mid a) (next a) post) : Safe keys pre (command >>= next) post := by
  intro world hconsistent hpre
  obtain ⟨hguarded, hmid⟩ := hfirst world hconsistent hpre
  rw [runIn_bind]
  cases hrun : command.runIn world with
  | mk result between =>
      rw [hrun] at hguarded hmid
      cases result with
      | error e =>
          -- The first step failed, so the chain ends here, and promises nothing.
          refine ⟨hguarded, ?_⟩
          intro b hb
          cases hb
      | ok a =>
          obtain ⟨hrest, hpost⟩ := hnext a between hguarded.consistent (hmid a rfl)
          exact ⟨hguarded.trans hrest, hpost⟩

/-- Other conditions that hold more often before and less often after. -/
theorem weaken {command : Command α} {pre' : Slots → Prop} {post post' : α → Slots → Prop}
    (h : Safe keys pre command post) (hpre : ∀ slots, pre' slots → pre slots)
    (hpost : ∀ a slots, Consistent slots → post a slots → post' a slots) :
    Safe keys pre' command post' := by
  intro world hconsistent hworld
  obtain ⟨hguarded, hresult⟩ := h world hconsistent (hpre _ hworld)
  exact ⟨hguarded, fun a ha => hpost a _ hguarded.consistent (hresult a ha)⟩

/-- A value alone is safe, with nothing said about the slots. -/
theorem value (a : α) : Safe keys pre (Pure.pure a) fun _ _ => True :=
  (pure a).weaken (fun _ h => h) fun _ _ _ _ => trivial

/-- A condition on something other than the slots may be taken out of `pre`. -/
theorem given {command : Command α} {fact : Prop} {post : α → Slots → Prop}
    (h : fact → Safe keys pre command post) :
    Safe keys (fun slots => fact ∧ pre slots) command post := by
  intro world hconsistent hpre
  exact h hpre.1 world hconsistent hpre.2

/-- More keys may be allowed. -/
theorem widen {command : Command α} {keys' : List String} {post : α → Slots → Prop}
    (h : Safe keys pre command post) (hkeys : keys ⊆ keys') : Safe keys' pre command post := by
  intro world hconsistent hpre
  obtain ⟨hguarded, hpost⟩ := h world hconsistent hpre
  exact ⟨hguarded.widen hkeys, hpost⟩

/-- A mapped command is safe. -/
theorem map {command : Command α} {post : α → Slots → Prop} (f : α → β)
    (h : Safe keys pre command post) : Safe keys pre (f <$> command) fun _ _ => True := by
  intro world hconsistent hpre
  rw [runIn_map]
  exact ⟨(h world hconsistent hpre).1, fun _ _ => trivial⟩

/-- An attempt of a safe command is safe. -/
theorem attempt {command : Command α} {post : α → Slots → Prop}
    (h : Safe keys pre command post) : Safe keys pre (Command.attempt command) fun _ _ => True := by
  intro world hconsistent hpre
  obtain ⟨hguarded, -⟩ := h world hconsistent hpre
  rw [runIn_attempt]
  cases hrun : command.runIn world with
  | mk result between =>
      rw [hrun] at hguarded
      cases result <;> exact ⟨hguarded, fun _ _ => trivial⟩

/-! ### Reads and writes -/

/-- Reading a slot is safe, and tells what is there. -/
theorem get (key : String) : Safe keys pre (Command.get key) fun found slots =>
    slots.lookup? key = found.map .text ∧ pre slots := by
  intro world hconsistent hpre
  rw [snd_runIn_get]
  refine ⟨.of_no_writes hconsistent (.read world), ?_⟩
  intro found hfound
  exact ⟨(runIn_get_eq_ok (Prod.ext hfound rfl)).2, hpre⟩

/-- A text may be put under one of the wallet's keys where that leaves the slots consistent. -/
theorem set {key value : String} (hkey : key ∈ keys)
    (hinsert : ∀ slots, Consistent slots → pre slots →
      Consistent (slots.insert key (.text value))) :
    Safe keys pre (Command.set key value) fun _ slots =>
      ∃ before, pre before ∧ slots = before.insert key (.text value) := by
  intro world hconsistent hpre
  constructor
  · rw [runIn_set]
    refine .wrote (.set key value) _ (fun _ => hkey) hconsistent ?_
    intro fate
    -- A lost write is done without anybody being told.
    cases fate with
    | refused => exact hconsistent
    | done => exact hinsert _ hconsistent hpre
    | lost => exact hinsert _ hconsistent hpre
  · intro u hu
    have hafter : ((Command.set key value).runIn world).2 = world.wrote (.set key value .done) :=
      runIn_set_eq_ok (Prod.ext hu rfl)
    exact ⟨_, hpre, by rw [hafter]; rfl⟩

/-- A key may be removed where that leaves the slots consistent. -/
theorem delete {key : String} (hkey : key ∈ keys)
    (herase : ∀ slots, Consistent slots → pre slots → Consistent (slots.erase key)) :
    Safe keys pre (Command.delete key) fun _ slots =>
      ∃ before, pre before ∧ slots = before.erase key := by
  intro world hconsistent hpre
  constructor
  · rw [runIn_delete]
    refine .wrote (.delete key) _ (fun _ => hkey) hconsistent ?_
    intro fate
    cases fate with
    | refused => exact hconsistent
    | done => exact herase _ hconsistent hpre
    | lost => exact herase _ hconsistent hpre
  · intro u hu
    have hafter : ((Command.delete key).runIn world).2 = world.wrote (.delete key .done) :=
      runIn_delete_eq_ok (Prod.ext hu rfl)
    exact ⟨_, hpre, by rw [hafter]; rfl⟩

end Safe

end Custody
