import Custody.Cli.Run
import Custody.Proofs.Wallet.Exchange
import Custody.Proofs.Wallet.Identity

/-!
# `Custody.Proofs.Wallet.Status`: all views of the wallet agree

Whether a wallet is unlocked is asked in four ways. `state` holds the session against the record;
`unlockedKeypair`, which every transfer needs, does so again on its own; `isUnlocked` and
`expiresAt` look at the session's time and at nothing else. What is in the store may be anything:
a record that does not load, a session of another wallet, one without a record, one that has
expired, a text that is no session.

`views_agree` says that they tell the same all the same, on a store that does not fail. `state`
and a transfer agree on one store and at one reading of the clock, because both come down to
`Unlocked`. `isUnlocked` and `expiresAt` agree with a `state` that was looked at before: a session
that is not the wallet's would deceive them, and `state` has removed it by then.

`state` is three steps: the record, the session and the verdict on the two (`state_eq`). The
verdict tells of an unlocked wallet or removes the session (`conclude_cases`), so there are two
ways in which a state can have been told (`state_eq_ok`), and `Settled` is shown for each.
-/

set_option autoImplicit false

namespace Custody.Wallet

open Time Command
open Store (Slots walletKey sessionKey)

/-! ### The three steps of a look at the state -/

/-- The state of a wallet that is not unlocked. -/
def atRest : Option Record → State
  | none => .absent
  | some record => .locked record.address record.publicKey

/-- A wallet at rest is not shown unlocked. -/
@[simp] theorem isUnlocked_atRest (found : Option Record) : (atRest found).isUnlocked = false := by
  cases found <;> rfl

/-- The session's key is the record's. -/
def Fits (record : Record) (session : Session) : Prop :=
  ∃ keypair, Keypair.ofHex session.privateKey = .ok keypair
    ∧ keypair.publicKey.toHex = record.publicKey

/-- The verdict on a record and on a live session: a session that does not fit is removed. -/
def conclude : Option Record → Option Session → Command State
  | none, session? => do
    if session?.isSome then Session.finish
    return .absent
  | some record, none => return .locked record.address record.publicKey
  | some record, some session =>
    match Keypair.ofHex session.privateKey with
    | .ok keypair =>
      if keypair.publicKey.toHex = record.publicKey then
        return .unlocked record.address record.publicKey session.privateKey
      else do
        Session.finish
        return .locked record.address record.publicKey
    | .error _ => do
      Session.finish
      return .locked record.address record.publicKey

/-- The state is concluded from the record and the live session. -/
theorem state_eq :
    state = Keystore.load >>= fun found => Session.live >>= conclude found := by
  unfold state
  refine congrArg (Keystore.load >>= ·) (funext fun found => ?_)
  cases found with
  | none => rfl
  | some record =>
      refine congrArg (Session.live >>= ·) (funext fun session? => ?_)
      cases session? <;> rfl

section
variable {world : World} {found : Option Record} {record : Record} {session : Session}

/-- Without a live session the wallet is at rest. -/
theorem conclude_none : (conclude found none).runIn world = (.ok (atRest found), world) := by
  cases found <;> rfl

/-- With a session of its key, the record is shown unlocked. -/
theorem conclude_of_fits (h : Fits record session) :
    (conclude (some record) (some session)).runIn world
      = (.ok (.unlocked record.address record.publicKey session.privateKey), world) := by
  obtain ⟨keypair, hkey, hshown⟩ := h
  unfold conclude
  simp only [hkey, hshown, if_true]
  rfl

/-- A session that fits no record is removed, and the wallet is at rest. -/
theorem conclude_of_misfit (hsound : world.Sound)
    (h : ∀ record, found = some record → ¬ Fits record session) :
    (conclude found (some session)).runIn world
      = (.ok (atRest found), world.wrote (.delete sessionKey .done)) := by
  have hfinish (shown : State) : (do Session.finish; return shown : Command State).runIn world
      = (.ok shown, world.wrote (.delete sessionKey .done)) := by
    rw [runIn_bind, Session.finish_sound hsound]
    rfl
  unfold conclude
  cases found with
  | none => exact hfinish .absent
  | some record =>
      cases hkey : Keypair.ofHex session.privateKey with
      | error e =>
          simp only [hkey]
          exact hfinish _
      | ok keypair =>
          simp only [hkey]
          split
          · rename_i hshown
            exact absurd ⟨keypair, hkey, hshown⟩ (h record rfl)
          · exact hfinish _

/-- With a live session there are two verdicts. -/
theorem conclude_cases (hsound : world.Sound) (found : Option Record) (session : Session) :
    (∃ record, found = some record ∧ Fits record session
        ∧ (conclude found (some session)).runIn world
          = (.ok (.unlocked record.address record.publicKey session.privateKey), world))
      ∨ (conclude found (some session)).runIn world
          = (.ok (atRest found), world.wrote (.delete sessionKey .done)) := by
  by_cases h : ∃ record, found = some record ∧ Fits record session
  · obtain ⟨record, rfl, hfits⟩ := h
    exact .inl ⟨record, rfl, hfits, conclude_of_fits hfits⟩
  · exact .inr (conclude_of_misfit hsound fun record hfound hfits => h ⟨record, hfound, hfits⟩)

end

/-! ### What a look at the state leaves -/

/-- The slots keep what a look at the record has found. -/
def Holds (slots : Slots) : Option Record → Prop
  | none => slots.lookup? walletKey = none
  | some record => slots.KeepsRecord record

/-- The writes that leave no session in the slots: one, if there is a session, and none
otherwise. -/
def clearing (slots : Slots) : List Store.Write :=
  if (slots.lookup? sessionKey).isSome then [.delete sessionKey .done] else []

/-- A session that is kept is cleared by its removal. -/
theorem clearing_of_keeps {slots : Slots} {session : Session} (h : slots.KeepsSession session) :
    clearing slots = [.delete sessionKey .done] :=
  if_pos (Option.isSome_iff_ne_none.mpr h.lookup?_ne_none)

/-- After the clearing there is no session. -/
theorem replay_clearing (slots : Slots) :
    slots.replay (clearing slots) = slots.erase sessionKey := by
  unfold clearing
  split
  · rfl
  · rename_i h
    exact (Store.Slots.erase_of_lookup?_eq_none (Option.not_isSome_iff_eq_none.mp h)).symm

section
variable {world after : World} {found : Option Record} {shown : State} {e : WalletError}

/-- A store that does not fail does not come to fail. -/
theorem sound_of_follows {writes : List Store.Write} (hsound : world.Sound)
    (h : world.Follows after writes) : after.Sound := by
  intro n call key
  rw [h.fate]
  exact hsound n call key

/-- Clearing the session leaves the record. -/
theorem holds_of_follows_clearing (hholds : Holds world.store.slots found)
    (h : world.Follows after (clearing world.store.slots)) : Holds after.store.slots found := by
  rw [h.slots, replay_clearing]
  cases found with
  | none => exact (Store.Slots.lookup?_erase_ne Store.walletKey_ne_sessionKey).trans hholds
  | some record => exact Store.Slots.KeepsRecord.erase_session hholds

/-- The record that the slots hold is found. -/
theorem load_of_holds (hsound : world.Sound) (h : Holds world.store.slots found) :
    Keystore.load.runIn world = (.ok found, world.read) := by
  cases found with
  | none => exact Keystore.load_of_none hsound h
  | some record => exact Keystore.load_of_keeps hsound h

/-- A look that finds no live session leaves none. -/
theorem follows_of_live_none (hsound : world.Sound)
    (h : Session.live.runIn world = (.ok none, after)) :
    world.Follows after (clearing world.store.slots) := by
  have hremoved : world.Follows (Session.removed world) [.delete sessionKey .done] :=
    (World.Follows.read world).trans (.wrote world.read _)
  rw [Session.runIn_live hsound] at h
  unfold clearing
  cases hslot : world.store.slots.lookup? sessionKey with
  | none =>
      rw [hslot] at h
      cases h
      exact .read world
  | some slot =>
      rw [hslot] at h
      cases slot with
      | blob => cases h
      | text text =>
          simp only at h
          split at h
          · cases h
            exact hremoved
          · split at h
            · cases h
            · cases h
              exact hremoved

/-- Only what is under the session's key can make looking for a live session fail. -/
theorem live_eq_error (hsound : world.Sound) (h : Session.live.runIn world = (.error e, after)) :
    ¬ ReadableSession world.store.slots ∧ e = .storage ⟨sessionKey⟩ ∧ after = world.read := by
  rw [Session.runIn_live hsound] at h
  cases hslot : world.store.slots.lookup? sessionKey with
  | none =>
      rw [hslot] at h
      cases h
  | some slot =>
      rw [hslot] at h
      cases slot with
      | blob =>
          cases h
          exact ⟨fun hreadable => hreadable hslot, rfl, rfl⟩
      | text text =>
          simp only at h
          split at h
          · cases h
          · split at h <;> cases h

/-- A state that was told is that of an unlocked wallet, and nothing was written; or it is what the
record says alone, and no session is left. -/
theorem state_eq_ok (hsound : world.Sound) (h : state.runIn world = (.ok shown, after)) :
    (after = world.read.read
        ∧ ∃ record session, world.store.slots.KeepsRecord record
          ∧ world.store.slots.KeepsSession session ∧ session.isLiveAt world.now = true
          ∧ Fits record session
          ∧ shown = .unlocked record.address record.publicKey session.privateKey)
      ∨ ∃ found, Holds world.store.slots found ∧ shown = atRest found
        ∧ world.Follows after (clearing world.store.slots) := by
  rw [state_eq] at h
  obtain ⟨found, between, hload, hrest⟩ := runIn_bind_eq_ok.mp h
  obtain ⟨rfl, hholds⟩ := Keystore.load_eq_ok hload
  replace hholds : Holds world.store.slots found := by cases found <;> exact hholds
  obtain ⟨session?, between, hlive, hconclude⟩ := runIn_bind_eq_ok.mp hrest
  cases session? with
  | none =>
      rw [conclude_none] at hconclude
      cases hconclude
      exact .inr ⟨found, hholds, rfl,
        (World.Follows.read world).trans (follows_of_live_none hsound.read hlive)⟩
  | some session =>
      obtain ⟨rfl, hsession, htime⟩ := Session.live_eq_ok_some hlive
      rcases conclude_cases hsound.read.read found session with ⟨record, rfl, hfits, hrun⟩ | hrun
      · rw [hrun] at hconclude
        cases hconclude
        exact .inl ⟨rfl, record, session, hholds, hsession, htime, hfits, rfl⟩
      · rw [hrun] at hconclude
        cases hconclude
        refine .inr ⟨found, hholds, rfl, ?_⟩
        have hclearing : clearing world.store.slots = _ := clearing_of_keeps hsession
        rw [hclearing]
        exact ((World.Follows.read world).trans (.read world.read)).trans (.wrote _ _)

end

/-! ### The views agree -/

/-- What `state` has told of a world is what the other views say of the world that it has left. A
session that was there has been removed exactly if the wallet is not unlocked, and nothing else in
the store has changed. -/
structure Settled (world after : World) (shown : State) : Prop where
  isUnlocked : ∃ later, Wallet.isUnlocked.runIn after = (.ok shown.isUnlocked, later)
  expiresAt : ∃ deadline later, Wallet.expiresAt.runIn after = (.ok deadline, later)
    ∧ deadline.isSome = shown.isUnlocked
  again : ∃ later, state.runIn after = (.ok shown, later) ∧ after.Follows later []
  record : after.store.slots.lookup? walletKey = world.store.slots.lookup? walletKey
  session : (world.store.slots.lookup? sessionKey ≠ none
      ∧ after.store.slots.lookup? sessionKey = none)
    ↔ (world.store.slots.lookup? sessionKey ≠ none ∧ shown.isUnlocked = false)
  writes : world.Follows after (if shown.isUnlocked then [] else clearing world.store.slots)

section
variable {world after : World} {found : Option Record} {record : Record} {session : Session}

/-- An unlocked wallet stays as it is. -/
theorem settled_of_unlocked (hsound : world.Sound) (hkeeps : world.store.slots.KeepsRecord record)
    (hsession : world.store.slots.KeepsSession session)
    (hlive : session.isLiveAt world.now = true) (hfits : Fits record session) :
    Settled world world.read.read
      (.unlocked record.address record.publicKey session.privateKey) := by
  have hlook := Session.live_of_keeps hsound.read.read hsession hlive
  obtain ⟨keypair, hkey, hshown⟩ := hfits
  have hfollows {world : World} : world.Follows world.read.read [] :=
    (World.Follows.read world).trans (.read world.read)
  exact {
    isUnlocked := ⟨_, isUnlocked_of_live hlook⟩
    expiresAt := ⟨_, _, expiresAt_of_live hlook, rfl⟩
    again := ⟨_, state_of_unlocked hsound.read.read hkeeps hsession hlive hkey hshown, hfollows⟩
    record := rfl
    session := ⟨fun ⟨_, hnone⟩ => absurd hnone hsession.lookup?_ne_none, fun ⟨_, h⟩ => nomatch h⟩
    writes := hfollows }

/-- Without a session, the record alone says what the state is. -/
theorem state_of_no_session (hsound : world.Sound) (hholds : Holds world.store.slots found)
    (hslot : world.store.slots.lookup? sessionKey = none) :
    state.runIn world = (.ok (atRest found), world.read.read) := by
  rw [state_eq, runIn_bind, load_of_holds hsound hholds]
  simp only
  rw [runIn_bind, Session.live_of_none hsound.read hslot]
  exact conclude_none

/-- A wallet that is not unlocked has no session left. -/
theorem settled_of_atRest (hsound : world.Sound) (hholds : Holds world.store.slots found)
    (hfollows : world.Follows after (clearing world.store.slots)) :
    Settled world after (atRest found) := by
  have hafter := sound_of_follows hsound hfollows
  have hslots : after.store.slots = world.store.slots.erase sessionKey := by
    rw [hfollows.slots, replay_clearing]
  have hslot : after.store.slots.lookup? sessionKey = none := by
    rw [hslots]
    exact Store.Slots.lookup?_erase_self
  have hlook := Session.live_of_none hafter hslot
  have hlocked := isUnlocked_atRest found
  exact {
    isUnlocked := by
      rw [hlocked]
      exact ⟨_, isUnlocked_of_live hlook⟩
    expiresAt := ⟨_, _, expiresAt_of_live hlook, hlocked.symm⟩
    again := ⟨_, state_of_no_session hafter (holds_of_follows_clearing hholds hfollows) hslot,
      (World.Follows.read after).trans (.read after.read)⟩
    record := hslots ▸ Store.Slots.lookup?_erase_ne Store.walletKey_ne_sessionKey
    session := and_congr_right fun _ => iff_of_true hslot hlocked
    writes := by
      rw [hlocked]
      exact hfollows }

end

section
variable {world after : World} {shown : State} {e : WalletError}

/-- A state that was answered says what the slots then hold. -/
theorem settled_of_state (hsound : world.Sound) (h : state.runIn world = (.ok shown, after)) :
    Settled world after shown := by
  rcases state_eq_ok hsound h with ⟨rfl, record, session, hkeeps, hsession, hlive, hfits, rfl⟩
    | ⟨found, hholds, rfl, hfollows⟩
  · exact settled_of_unlocked hsound hkeeps hsession hlive hfits
  · exact settled_of_atRest hsound hholds hfollows

/-- The status that is printed is a state and the end of the session that it has left. -/
theorem status_of_state {m : Type → Type} [Monad m] (network : Http.Network m)
    (settings : Settings) (json : Bool) {deadline : Option Instant} {later : World}
    (h : state.runIn world = (.ok shown, after))
    (hexpires : expiresAt.runIn after = (.ok deadline, later)) :
    ∃ step, Cli.Subcommand.status.task network settings json = .onWallet step
      ∧ step world = pure (.ofLines (Cli.stateOutput json shown deadline), later) := by
  refine ⟨_, rfl, ?_⟩
  have hrun : (do return (← state, ← expiresAt) : Command (State × Option Instant)).runIn world
      = (.ok (shown, deadline), later) := by
    rw [runIn_bind, h]
    simp only
    rw [runIn_bind, hexpires]
    rfl
  unfold Cli.Step.ofCommand
  rw [hrun]

/-- A transfer needs the key, and so do the unlocked wallets that `state` tells of. -/
theorem state_unlocked_iff_signs (hsound : world.Sound) {typed : String} {payee : PublicKey}
    (hpayee : Address.parse typed = .ok payee) (amount nonce : UInt64) :
    (∃ shown after, state.runIn world = (.ok shown, after) ∧ shown.isUnlocked = true)
      ↔ ∃ tx after, (signTransfer typed amount nonce).runIn world = (.ok tx, after) := by
  constructor
  · rintro ⟨shown, after, hstate, hunlocked⟩
    obtain ⟨address, publicKey, privateKey, rfl⟩ :
        ∃ address publicKey privateKey, shown = .unlocked address publicKey privateKey := by
      cases shown with
      | unlocked address publicKey privateKey => exact ⟨address, publicKey, privateKey, rfl⟩
      | _ => cases hunlocked
    obtain ⟨record, keypair, hunlocked, -⟩ := state_eq_unlocked hstate
    exact ⟨_, _, signTransfer_of_unlocked hsound hunlocked hpayee⟩
  · rintro ⟨tx, after, hsign⟩
    obtain ⟨record, keypair, hunlocked, -⟩ := signTransfer_eq_ok hsign
    obtain ⟨session, hsession, hlive, hkey⟩ := hunlocked.live
    exact ⟨_, _, state_of_unlocked hsound hunlocked.kept hsession hlive hkey hunlocked.shown, rfl⟩

/-- Where the state cannot be told, the key is not given out, for the same reason. Only with a
session that cannot be read is the record that is missing told of first. -/
theorem withKey_of_state_error {α : Type} (next : Record → Keypair → Command α)
    (hsound : world.Sound) (h : state.runIn world = (.error e, after)) :
    ∃ told later, (withKey next).runIn world = (.error told, later)
      ∧ (told = e ∨ world.store.slots.lookup? walletKey = none
        ∧ ¬ ReadableSession world.store.slots) := by
  rw [state_eq] at h
  rcases runIn_bind_eq_error.mp h with hload | ⟨found, between, hload, hrest⟩
  · refine ⟨e, after, ?_, .inl rfl⟩
    unfold withKey Keystore.require
    rw [runIn_bind, runIn_bind, hload]
  · obtain ⟨rfl, hfound⟩ := Keystore.load_eq_ok hload
    rcases runIn_bind_eq_error.mp hrest with hlive | ⟨session?, between, hlive, hconclude⟩
    · obtain ⟨hblob, rfl, rfl⟩ := live_eq_error hsound.read hlive
      cases found with
      | none => exact ⟨_, _, withKey_of_none hsound hfound, .inr ⟨hfound, hblob⟩⟩
      | some record =>
          refine ⟨_, world.read.read, ?_, .inl rfl⟩
          unfold withKey unlockedKeypair Session.secret
          rw [runIn_bind, Keystore.require_of_keeps hsound hfound]
          simp only
          rw [runIn_bind, runIn_bind, runIn_bind, hlive]
    · -- The verdict itself never fails.
      cases session? with
      | none =>
          rw [conclude_none] at hconclude
          cases hconclude
      | some session =>
          obtain ⟨rfl, -, -⟩ := Session.live_eq_ok_some hlive
          rcases conclude_cases hsound.read.read found session with ⟨record, rfl, -, hrun⟩ | hrun
          · rw [hrun] at hconclude
            cases hconclude
          · rw [hrun] at hconclude
            cases hconclude

/-- The views of a wallet agree, whatever is in the store, if the store does not fail. `state`
tells of an unlocked wallet exactly if a transfer to a receiver that can be read is signed on the
same store and at the same time. Where `state` fails, so does the transfer, for the same reason;
only where reading the session itself fails and there is no record does the transfer, which wants
the record first, complain of that. After a state was told, the other views say the same as it
(`Settled`), and the status that is printed has the end of a session exactly if the wallet is
unlocked. -/
theorem views_agree (world : World) (hsound : world.Sound) :
    (∀ typed payee amount nonce, Address.parse typed = .ok payee →
        ((∃ shown after, state.runIn world = (.ok shown, after) ∧ shown.isUnlocked = true)
          ↔ ∃ tx after, (signTransfer typed amount nonce).runIn world = (.ok tx, after)))
      ∧ (∀ e after, state.runIn world = (.error e, after) →
        ∀ typed amount nonce, ∃ told later,
          (signTransfer typed amount nonce).runIn world = (.error told, later)
            ∧ (told = e ∨ world.store.slots.lookup? walletKey = none
              ∧ ¬ ReadableSession world.store.slots))
      ∧ ∀ shown after, state.runIn world = (.ok shown, after) →
        Settled world after shown
          ∧ ∀ {m : Type → Type} [Monad m] (network : Http.Network m) settings json,
            ∃ step deadline later, deadline.isSome = shown.isUnlocked
              ∧ Cli.Subcommand.status.task network settings json = .onWallet step
              ∧ step world = pure (.ofLines (Cli.stateOutput json shown deadline), later) := by
  refine ⟨?_, ?_, ?_⟩
  · intro typed payee amount nonce hpayee
    exact state_unlocked_iff_signs hsound hpayee amount nonce
  · intro e after h typed amount nonce
    rw [signTransfer_eq]
    exact withKey_of_state_error _ hsound h
  · intro shown after h
    have hsettled := settled_of_state hsound h
    refine ⟨hsettled, fun network settings json => ?_⟩
    obtain ⟨deadline, later, hexpires, hsome⟩ := hsettled.expiresAt
    obtain ⟨step, htask, hprinted⟩ := status_of_state network settings json h hexpires
    exact ⟨step, deadline, later, hsome, htask, hprinted⟩

end

/-- A wallet that says that it is unlocked, and signs. When its time has come it says that it is
locked, and neither a session nor the end of one is left. -/
theorem views_agree_in_time :
    ∃ (world late : World) (told shown : State) (tx : Transaction) (after signed later : World),
      state.runIn world = (.ok told, after) ∧ told.isUnlocked = true
        ∧ (signTransfer "0x00112233445566778899aabbccddeeff00112233445566778899aabbccddeeff" 5
            0).runIn world = (.ok tx, signed)
        ∧ late = { world with now := .last }
        ∧ state.runIn late = (.ok shown, later) ∧ shown.isUnlocked = false
        ∧ late.store.slots.lookup? sessionKey ≠ none
        ∧ later.store.slots.lookup? sessionKey = none
        ∧ (expiresAt.runIn later).1 = .ok none := by
  obtain ⟨world, record, keypair, hreached, hsound, hnow, hunlocked, hlocked⟩ := exists_unlocked
  rw [← hnow] at hunlocked
  obtain ⟨session, hsession, hlive, hkey⟩ := hunlocked.live
  have hstate := state_of_unlocked hsound hunlocked.kept hsession hlive hkey hunlocked.shown
  obtain ⟨payee, hpayee⟩ : ∃ payee, Address.parse
      "0x00112233445566778899aabbccddeeff00112233445566778899aabbccddeeff" = .ok payee :=
    ⟨_, rfl⟩
  obtain ⟨tx, signed, hsign⟩ :=
    ((views_agree world hsound).1 _ payee 5 0 hpayee).mp ⟨_, _, hstate, rfl⟩
  let late : World := { world with now := .last }
  have hdead : ∀ found, world.store.slots.KeepsSession found → found.isLiveAt .last = false := by
    intro found hfound
    rw [hsession.unique hfound]
    by_contra htime
    exact hlocked keypair ⟨hunlocked.kept, ⟨session, hsession, by simpa using htime, hkey⟩,
      hunlocked.shown⟩
  have hlate : late.Sound := hsound
  obtain ⟨later, hrun, -⟩ := live_of_dead hlate.read (readableSession_of_keeps hsession) hdead
  obtain ⟨shown, hrest, hstate'⟩ := state_of_dead hlate hreached.consistent hrun
  obtain ⟨hsettled, -⟩ := (views_agree late hlate).2.2 shown later hstate'
  obtain ⟨deadline, last, hexpires, hsome⟩ := hsettled.expiresAt
  have hpresent : late.store.slots.lookup? sessionKey ≠ none := hsession.lookup?_ne_none
  refine ⟨world, late, _, shown, tx, _, signed, later, hstate, rfl, hsign, rfl, hstate', hrest,
    hpresent, (hsettled.session.mpr ⟨hpresent, hrest⟩).2, ?_⟩
  rw [hrest, Option.isSome_eq_false_iff, Option.isNone_iff_eq_none] at hsome
  rw [hexpires, hsome]

end Custody.Wallet
