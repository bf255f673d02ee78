import Custody.Proofs.Wallet.Look

/-!
# `Custody.Proofs.Wallet.InStep`: worlds that no call can tell apart

A session that has expired, or that cannot be read, is as good as none: whoever looks at it
removes it and goes on as if it had not been there. So two worlds that differ in such a session
only are in step (`InStep`). A command `Agrees` if it answers the same in both and leaves them
in step, and `Call.agrees` says that every call does.

Only `Session.live` ever looks under the session's key, which is what `Agrees.live` rests on.
All else is put together from the rules for chains of steps.
-/

set_option autoImplicit false

namespace Custody

open Time Command
open Store (Slots walletKey sessionKey)

/-! ### Slots and worlds in step -/

/-- The session that is kept cannot be read, or is over. -/
def Spent (slots : Slots) (now : Instant) : Prop :=
  ∃ text, slots.lookup? sessionKey = some (.text text)
    ∧ ∀ session, Session.ofText? text = some session → session.isLiveAt now = false

/-- The second slots are the first ones, but a session that is spent may be missing. -/
structure SameBut (now : Instant) (first second : Slots) : Prop where
  elsewhere : ∀ key ≠ sessionKey, second.lookup? key = first.lookup? key
  session : second.lookup? sessionKey = first.lookup? sessionKey
    ∨ second.lookup? sessionKey = none ∧ Spent first now

/-- What a write leaves under a key depends on what was there only. -/
theorem Store.Write.lookup?_apply_congr {slots other : Slots} {key : String}
    (h : other.lookup? key = slots.lookup? key) (write : Store.Write) :
    (other.apply write).lookup? key = (slots.apply write).lookup? key := by
  by_cases hkey : key = write.key
  · subst hkey
    cases write with
    | set key value fate => cases fate <;> simp_all [Slots.apply, Store.Write.key]
    | delete key fate => cases fate <;> simp_all [Slots.apply, Store.Write.key]
  · rw [lookup?_apply_ne other write hkey, lookup?_apply_ne slots write hkey]
    exact h

namespace SameBut

variable {now : Instant} {first second : Slots}

/-- Slots are the same as themselves. -/
theorem refl (now : Instant) (slots : Slots) : SameBut now slots slots :=
  ⟨fun _ _ => rfl, .inl rfl⟩

/-- The same write on both sides. -/
theorem apply (h : SameBut now first second) (write : Store.Write) :
    SameBut now (first.apply write) (second.apply write) := by
  refine ⟨fun key hkey => Store.Write.lookup?_apply_congr (h.elsewhere key hkey) write, ?_⟩
  rcases h.session with hsame | ⟨hnone, hspent⟩
  · exact .inl (Store.Write.lookup?_apply_congr hsame write)
  · by_cases hkey : write.key = sessionKey
    · -- What was there before is gone, unless the write is refused.
      cases write with
      | set key value fate =>
          obtain rfl : key = sessionKey := hkey
          cases fate with
          | refused => exact .inr ⟨hnone, hspent⟩
          | done => exact .inl (by simp [Slots.apply])
          | lost => exact .inl (by simp [Slots.apply])
      | delete key fate =>
          obtain rfl : key = sessionKey := hkey
          cases fate with
          | refused => exact .inr ⟨hnone, hspent⟩
          | done => exact .inl (by simp [Slots.apply])
          | lost => exact .inl (by simp [Slots.apply])
    · have hother : sessionKey ≠ write.key := Ne.symm hkey
      refine .inr ⟨?_, ?_⟩
      · rw [Store.Write.lookup?_apply_ne second write hother]
        exact hnone
      · obtain ⟨text, hslot, hover⟩ := hspent
        refine ⟨text, ?_, hover⟩
        rw [Store.Write.lookup?_apply_ne first write hother]
        exact hslot

/-- Removing the session on the first side, where the second has none. -/
theorem erase_first (h : SameBut now first second) (hnone : second.lookup? sessionKey = none) :
    SameBut now (first.erase sessionKey) second := by
  refine ⟨fun key hkey => ?_, .inl ?_⟩
  · rw [Store.Slots.lookup?_erase_ne hkey]
    exact h.elsewhere key hkey
  · rw [Store.Slots.lookup?_erase_self]
    exact hnone

end SameBut

/-- Two worlds at the same time, with stores that do not fail, that differ in a spent session at
most. -/
structure InStep (now : Instant) (first second : World) : Prop where
  sound : first.Sound ∧ second.Sound
  clock : first.now = now ∧ second.now = now
  tape : second.tape = first.tape
  slots : SameBut now first.store.slots second.store.slots

namespace InStep

variable {now : Instant} {first second : World}

/-- A read on both sides. -/
theorem read (h : InStep now first second) : InStep now first.read second.read :=
  ⟨h.sound, h.clock, h.tape, h.slots⟩

/-- The same write on both sides. -/
theorem wrote (h : InStep now first second) (write : Store.Write) :
    InStep now (first.wrote write) (second.wrote write) :=
  ⟨h.sound, h.clock, h.tape, h.slots.apply write⟩

end InStep

/-! ### Commands that agree -/

/-- The command answers the same in two worlds in step, and leaves them in step. -/
def Agrees {α : Type} (command : Command α) : Prop :=
  ∀ (now : Instant) (first second : World), InStep now first second →
    (command.runIn second).1 = (command.runIn first).1
      ∧ InStep now (command.runIn first).2 (command.runIn second).2

namespace Agrees

variable {α β : Type} {command : Command α} {next : α → Command β}

/-- A result alone is the same in both worlds. -/
theorem answer (result : Except WalletError α) : Agrees (Command.answer result) :=
  fun _ _ _ h => ⟨rfl, h⟩

/-- A value alone is the same in both worlds. -/
theorem pure (a : α) : Agrees (Pure.pure a) := fun _ _ _ h => ⟨rfl, h⟩

/-- A failure alone is the same in both worlds. -/
theorem fail (e : WalletError) : Agrees (Command.fail e : Command α) := fun _ _ _ h => ⟨rfl, h⟩

/-- Both clocks show the same time. -/
theorem now : Agrees Command.now := by
  intro now first second h
  refine ⟨?_, h⟩
  rw [runIn_now, runIn_now, h.clock.1, h.clock.2]

/-- Both tapes give the same. -/
theorem onTape (draw : Tape → Except WalletError α × Tape) : Agrees (Command.onTape draw) := by
  intro now first second h
  rw [runIn_onTape, runIn_onTape, h.tape]
  exact ⟨rfl, h.sound, h.clock, rfl, h.slots⟩

/-- Commands that agree agree one after the other. -/
theorem bind (h : Agrees command) (hnext : ∀ a, Agrees (next a)) :
    Agrees (command >>= next) := by
  intro now first second hstep
  obtain ⟨hresult, hworlds⟩ := h now first second hstep
  rw [runIn_bind, runIn_bind]
  cases hfirst : command.runIn first with
  | mk result after =>
      cases hsecond : command.runIn second with
      | mk result' after' =>
          rw [hfirst, hsecond] at hresult hworlds
          obtain rfl : result' = result := hresult
          cases result' with
          | error e => exact ⟨rfl, hworlds⟩
          | ok a => exact hnext a now after after' hworlds

/-- A mapped command agrees. -/
theorem map (f : α → β) (h : Agrees command) : Agrees (f <$> command) := by
  rw [map_eq_pure_bind]
  exact h.bind fun a => .pure (f a)

/-- An attempt agrees. Where one fails, the other does. -/
theorem attempt (h : Agrees command) : Agrees (Command.attempt command) := by
  intro now first second hstep
  obtain ⟨hresult, hworlds⟩ := h now first second hstep
  rw [runIn_attempt, runIn_attempt]
  cases hfirst : command.runIn first with
  | mk result after =>
      cases hsecond : command.runIn second with
      | mk result' after' =>
          rw [hfirst, hsecond] at hresult hworlds
          obtain rfl : result' = result := hresult
          cases result' <;> exact ⟨rfl, hworlds⟩

/-- Any key but the session's may be looked at. -/
theorem get {key : String} (hkey : key ≠ sessionKey) : Agrees (Command.get key) := by
  intro now first second h
  rw [runIn_get h.sound.1, runIn_get h.sound.2, h.slots.elsewhere key hkey]
  exact ⟨rfl, h.read⟩

/-- A write to any key agrees, and leaves the same behind. -/
theorem set (key value : String) : Agrees (Command.set key value) := by
  intro now first second h
  rw [runIn_set_sound h.sound.1, runIn_set_sound h.sound.2]
  exact ⟨rfl, h.wrote _⟩

/-- A removal of any key agrees, and leaves the same behind. -/
theorem delete (key : String) : Agrees (Command.delete key) := by
  intro now first second h
  rw [runIn_delete_sound h.sound.1, runIn_delete_sound h.sound.2]
  exact ⟨rfl, h.wrote _⟩

end Agrees

/-! ### Looking at the session -/

/-- A spent session is removed. -/
theorem Session.live_of_spent {world : World} (h : world.Sound)
    (hspent : Spent world.store.slots world.now) :
    live.runIn world = (.ok none, removed world) := by
  obtain ⟨text, hslot, hover⟩ := hspent
  cases hread : ofText? text with
  | none => exact live_of_unreadable h hslot hread
  | some session => exact live_of_expired h ⟨text, hslot, hread⟩ (hover session hread)

/-- Looking for a live session agrees. Here alone the two worlds may differ: a spent session is
removed on the one side, and on the other there is none. -/
theorem Agrees.live : Agrees Session.live := by
  intro now first second h
  obtain ⟨hclock, hclock'⟩ := h.clock
  rcases h.slots.session with hsame | ⟨hnone, hspent⟩
  · -- The same is found, and the same becomes of it.
    rw [Session.runIn_live h.sound.1, Session.runIn_live h.sound.2, hsame, hclock, hclock']
    cases first.store.slots.lookup? sessionKey with
    | none => exact ⟨rfl, h.read⟩
    | some slot =>
        cases slot with
        | blob => exact ⟨rfl, h.read⟩
        | text text =>
            simp only
            cases Session.ofText? text with
            | none => exact ⟨rfl, h.read.wrote _⟩
            | some session =>
                simp only
                split
                · exact ⟨rfl, h.read⟩
                · exact ⟨rfl, h.read.wrote _⟩
  · -- One is removed on the first side, and there is none on either side then.
    rw [← hclock] at hspent
    rw [Session.live_of_spent h.sound.1 hspent, Session.live_of_none h.sound.2 hnone]
    exact ⟨rfl, h.sound, h.clock, h.tape, h.slots.erase_first hnone⟩

/-! ### The commands of the wallet -/

namespace Agrees

/-- Ending a session agrees. -/
theorem finish : Agrees Session.finish := delete sessionKey

/-- Starting a session agrees. -/
theorem start (length : Span) (secret : String) : Agrees (Session.start length secret) :=
  now.bind fun _ => (set _ _).bind fun _ => pure _

/-- Putting off its end agrees. -/
theorem refresh (length : Span) : Agrees (Session.refresh length) := by
  refine live.bind fun found => ?_
  cases found with
  | none => exact pure _
  | some session => exact now.bind fun _ => (set _ _).bind fun _ => pure _

/-- Asking whether the wallet is unlocked agrees. -/
theorem isUnlocked : Agrees Session.isUnlocked := by
  refine live.attempt.bind fun found => ?_
  cases found with
  | none => exact pure _
  | some session => exact pure _

/-- Asking for the secret agrees. -/
theorem secret : Agrees Session.secret := by
  refine live.bind fun found => ?_
  cases found with
  | none => exact fail _
  | some session => exact pure _

/-- Asking for the deadline agrees. -/
theorem deadline : Agrees Session.deadline := live.bind fun _ => pure _

/-- Looking for the record agrees, as it is not under the session's key. -/
theorem load : Agrees Keystore.load := by
  refine (get Store.walletKey_ne_sessionKey).bind fun found => ?_
  cases found with
  | none => exact pure _
  | some text => exact (answer _).bind fun _ => pure _

/-- Asking for the record agrees. -/
theorem require : Agrees Keystore.require := by
  refine load.bind fun found => ?_
  cases found with
  | none => exact fail _
  | some record => exact pure _

/-- Putting a wallet in place agrees. -/
theorem install (settings : Settings) (keypair : Keypair) (phrase password : String) :
    Agrees (Wallet.install settings keypair phrase password) :=
  now.bind fun _ => (onTape _).bind fun _ => finish.bind fun _ => (set _ _).bind fun _ =>
    (start _ _).bind fun _ => pure _

/-- Making a wallet agrees. -/
theorem create (settings : Settings) (password : String) :
    Agrees (Wallet.create settings password) := by
  unfold Wallet.create
  simp only
  split
  · exact (onTape _).bind fun _ => (install _ _ _ _).bind fun _ => pure _
  · exact fail _

/-- Looking whether a password is empty agrees. -/
theorem requireNonempty (password : String) : Agrees (Wallet.requireNonempty password) := by
  unfold Wallet.requireNonempty
  split
  · exact fail _
  · exact pure _

/-- Restoring a wallet agrees. -/
theorem restore (settings : Settings) (typed password : String) :
    Agrees (Wallet.restore settings typed password) := by
  refine (requireNonempty password).bind fun _ => ?_
  cases Phrase.parse typed with
  | error fault => exact fail _
  | ok phrase => exact (install _ _ _ _).bind fun _ => pure _

/-- Unlocking agrees. -/
theorem unlock (settings : Settings) (password : String) :
    Agrees (Wallet.unlock settings password) :=
  require.bind fun _ => (answer _).bind fun _ => (start _ _).bind fun _ => pure _

/-- Changing the password agrees. -/
theorem changePassword (settings : Settings) (old new : String) :
    Agrees (Wallet.changePassword settings old new) :=
  (requireNonempty new).bind fun _ => require.bind fun _ => (onTape _).bind fun _ => set _ _

/-- Asking for the key of the live session agrees. -/
theorem unlockedKeypair (record : Record) : Agrees (Wallet.unlockedKeypair record) := by
  refine secret.bind fun secret => ?_
  cases Keypair.ofHex secret with
  | error e => exact finish.bind fun _ => fail _
  | ok keypair =>
      simp only
      split
      · exact pure _
      · exact finish.bind fun _ => fail _

/-- Exporting the phrase agrees. -/
theorem exportPhrase (password : String) : Agrees (Wallet.exportPhrase password) :=
  require.bind fun record => (unlockedKeypair record).bind fun _ => answer _

/-- Exporting the key agrees. -/
theorem exportKey (password : String) : Agrees (Wallet.exportKey password) :=
  require.bind fun record => (unlockedKeypair record).bind fun _ =>
    (answer _).bind fun _ => pure _

/-- Reading an address agrees. -/
theorem receiver (typed : String) : Agrees (Wallet.receiver typed) := by
  unfold Wallet.receiver
  cases Address.parse typed with
  | error fault => exact fail _
  | ok key => exact pure _

/-- Signing a transfer agrees. -/
theorem signTransfer (typed : String) (amount nonce : UInt64) :
    Agrees (Wallet.signTransfer typed amount nonce) := by
  refine require.bind fun record => (unlockedKeypair record).bind fun keypair =>
    (receiver typed).bind fun payee => ?_
  simp only
  split
  · exact pure _
  · exact fail _

/-- Preparing a transfer agrees. -/
theorem prepare (typed : String) : Agrees (Wallet.prepare typed) :=
  require.bind fun record => (unlockedKeypair record).bind fun _ =>
    (receiver typed).bind fun _ => pure _

/-- Making a submission agrees. -/
theorem signSubmission (typed : String) (amount nonce : UInt64) :
    Agrees (Wallet.signSubmission typed amount nonce) := by
  refine (signTransfer typed amount nonce).bind fun tx => ?_
  cases tx.toSubmission with
  | none => exact fail _
  | some submission => exact pure _

/-- Asking for the state agrees. -/
theorem state : Agrees Wallet.state := by
  refine load.bind fun found => ?_
  cases found with
  | none =>
      refine live.bind fun session => ?_
      split
      · exact finish.bind fun _ => pure _
      · exact pure _
  | some record =>
      refine live.bind fun session => ?_
      cases session with
      | none => exact pure _
      | some session =>
          simp only
          cases Keypair.ofHex session.privateKey with
          | error e => exact finish.bind fun _ => pure _
          | ok keypair =>
              simp only
              split
              · exact pure _
              · exact finish.bind fun _ => pure _

/-- A tick of the timer agrees. -/
theorem autoLock : Agrees Wallet.autoLock := isUnlocked.map _

end Agrees

/-- Whatever is called, worlds in step stay so, and no answer tells them apart. -/
theorem Wallet.Call.agrees (settings : Settings) (call : Call) :
    Agrees (call.command settings) := by
  cases call with
  | create password => exact (Agrees.create settings password).map _
  | restore typed password => exact (Agrees.restore settings typed password).map _
  | unlock password => exact (Agrees.unlock settings password).map _
  | lock => exact Agrees.finish.map _
  | delete => exact (Agrees.finish.bind fun _ => Agrees.delete walletKey).map _
  | changePassword old new => exact (Agrees.changePassword settings old new).map _
  | touch => exact (Agrees.refresh settings.session).map _
  | isUnlocked => exact Agrees.isUnlocked.map _
  | expiresAt => exact Agrees.deadline.map _
  | state => exact Agrees.state.map _
  | exportPhrase password => exact (Agrees.exportPhrase password).map _
  | exportKey password => exact (Agrees.exportKey password).map _
  | sign typed amount nonce => exact (Agrees.signTransfer typed amount nonce).map _
  | prepare typed => exact (Agrees.prepare typed).map _
  | submission typed amount nonce => exact (Agrees.signSubmission typed amount nonce).map _
  | tick => exact Agrees.autoLock.map _

end Custody
