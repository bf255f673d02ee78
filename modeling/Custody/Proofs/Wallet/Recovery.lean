import Custody.Proofs.Phrase
import Custody.Proofs.Wallet.Crash
import Custody.Proofs.Wallet.Unlocked

/-!
# `Custody.Proofs.Wallet.Recovery`: no key is ever lost

`ownerOf past` is what the owner of a wallet has after some events: the phrase and the address
that the last new or restored wallet came with, and the password, which a change of password
renews. `Owner.Held` says that the slots are worth that: the record opens with the password, to
the phrase and to the key pair that the phrase stands for.

A wallet that was just put in place is held (`held_installed`), and after every call what the
owner then has is held (`Owned.call`). Along a whole run this gives `nothing_is_lost`.
-/

set_option autoImplicit false

namespace Custody.Wallet

open Time Command
open Store (Slots walletKey sessionKey)

/-- What the owner of a wallet has: the phrase as it was handed out or typed, the address that
came with it, and the password. -/
structure Owner where
  phrase : String
  address : String
  password : String
  deriving DecidableEq

namespace Owner

/-- What the owner has after one more event. A password that was changed without the one that
the owner has is not the owner's. -/
def next (owner : Option Owner) (event : Event) : Option Owner :=
  match event.call, event.answer with
  | .create password, .ok (.created created) =>
    some ⟨created.phrase, created.summary.address, password⟩
  | .restore typed password, .ok (.summary summary) =>
    match Phrase.normalize typed with
    | .ok phrase => some ⟨phrase, summary.address, password⟩
    | .error _ => none
  | .delete, .ok _ => none
  | .changePassword old new, .ok _ =>
    match owner with
    | some owner => if old = owner.password then some { owner with password := new } else none
    | none => none
  | _, _ => owner

end Owner

/-- What the owner has after these events. -/
def ownerOf (past : List Event) : Option Owner := past.foldl Owner.next none

/-- The owner after one more event comes from the owner before it. -/
theorem ownerOf_append (past : List Event) (event : Event) :
    ownerOf (past ++ [event]) = Owner.next (ownerOf past) event := by
  rw [ownerOf, List.foldl_append]
  rfl

/-- The slots are consistent, and the owner's password opens their record to the owner's phrase
and to the key pair that it stands for. -/
structure Owner.Held (owner : Owner) (phrase : Phrase) (slots : Slots) : Prop where
  consistent : Consistent slots
  spelled : Phrase.parse owner.phrase = .ok phrase
  address : owner.address = phrase.keypair.address
  record : ∃ record, slots.KeepsRecord record ∧ record.Shows phrase.keypair
    ∧ record.Opens owner.password phrase.keypair (some owner.phrase)

variable {settings : Settings} {world : World} {owner : Owner} {phrase : Phrase}

/-! ### One call -/

/-- A wallet that was just put in place is held. -/
theorem held_installed {record : Record} {password : String} (now : Instant) (slots : Slots)
    (hspelled : Phrase.parse phrase.text = .ok phrase) (hshows : record.Shows phrase.keypair)
    (hopens : record.Opens password phrase.keypair (some phrase.text)) :
    Owner.Held ⟨phrase.text, record.address, password⟩ phrase
      (installed settings phrase.keypair record now slots) :=
  ⟨consistent_installed settings hshows now slots, hspelled, hshows.address, record.asRead,
    (keeps_installed phrase.keypair hshows.version now slots).1, hshows.asRead, hopens.asRead⟩

/-- What is held depends on the record only, as long as the slots are consistent. -/
theorem Owner.Held.congr {slots other : Slots} (h : owner.Held phrase slots)
    (hconsistent : Consistent other)
    (hslot : other.lookup? walletKey = slots.lookup? walletKey) : owner.Held phrase other := by
  obtain ⟨record, hkeeps, hrest⟩ := h.record
  exact ⟨hconsistent, h.spelled, h.address, record, hkeeps.congr hslot, hrest⟩

/-- A call that does not write under the record's key keeps what is held. -/
theorem Owner.Held.of_keys (h : owner.Held phrase world.store.slots) (settings : Settings)
    (call : Call) (hkeys : walletKey ∉ call.keys) :
    owner.Held phrase (call.outcome settings world).2.store.slots := by
  -- The writes of the call say both: the slots stay consistent, and the record stays.
  obtain ⟨hslots, hwrites, -⟩ := call.writes_spec settings world h.consistent
  refine h.congr (call.writes_end settings world h.consistent) ?_
  rw [hslots]
  exact lookup?_replay_of_keys hkeys hwrites

/-- What the owner has, if anything, is held. -/
def Owned (owner : Option Owner) (slots : Slots) : Prop :=
  ∀ found, owner = some found → ∃ phrase, found.Held phrase slots

section
variable {before : Option Owner}

/-- After a call that answered and left these slots, what the owner has is held. -/
abbrev OwnedAfter (before : Option Owner) (settings : Settings) (world : World) (call : Call) :
    Prop :=
  Owned (Owner.next before (call.event settings world)) (call.outcome settings world).2.store.slots

/-- A wallet that was made is owned by whoever got its phrase. -/
theorem Owned.create (hsound : world.Sound) (password : String)
    (h : Owned before world.store.slots) :
    OwnedAfter before settings world (.create password) := by
  unfold OwnedAfter Call.event Call.outcome Call.command
  rw [runIn_map]
  cases hrun : (Wallet.create settings password).runIn world with
  | mk result after =>
      cases result with
      | error e =>
          show Owned before after.store.slots
          rw [create_eq_error hsound hrun]
          exact h
      | ok created =>
          obtain ⟨entropy, phrase, record, hlength, hphrase, rfl, hslots, hshows, hopens⟩ :=
            create_eq_ok hrun
          -- Sixteen bytes of entropy make a phrase of twelve words.
          have hblocks : entropy.length = 4 * 4 := hlength
          have hspelled : Phrase.parse phrase.text = .ok phrase := by
            rw [hphrase]
            exact Phrase.parse_text_ofEntropy hblocks (by decide) (by decide)
          rintro found ⟨⟩
          show ∃ phrase, Owner.Held _ phrase after.store.slots
          rw [hslots]
          exact ⟨phrase, held_installed world.now world.store.slots hspelled hshows hopens⟩

/-- A wallet that was restored is owned by whoever typed its phrase. -/
theorem Owned.restore (hsound : world.Sound) (typed password : String)
    (h : Owned before world.store.slots) :
    OwnedAfter before settings world (.restore typed password) := by
  unfold OwnedAfter Call.event Call.outcome Call.command
  rw [runIn_map]
  cases hrun : (Wallet.restore settings typed password).runIn world with
  | mk result after =>
      cases result with
      | error e =>
          show Owned before after.store.slots
          rw [restore_eq_error hsound hrun]
          exact h
      | ok summary =>
          obtain ⟨phrase, record, hparse, rfl, hslots, hshows, hopens⟩ := restore_eq_ok hrun
          -- What the owner typed is kept in its normal form, which is what the record
          -- seals.
          have hnormal : Phrase.normalize typed = .ok phrase.text := by
            rw [Phrase.normalize, hparse]
            rfl
          intro found hfound
          simp only [Owner.next, hnormal, Except.map] at hfound
          cases hfound
          show ∃ phrase, Owner.Held _ phrase after.store.slots
          rw [hslots]
          exact ⟨phrase, held_installed world.now world.store.slots
            (Phrase.parse_text_of_parse hparse) hshows hopens⟩

/-- Nobody has a wallet that was forgotten. -/
theorem Owned.delete (hsound : world.Sound) : OwnedAfter before settings world .delete := by
  unfold OwnedAfter Call.event Call.outcome Call.command
  rw [runIn_map, delete_of_sound hsound]
  intro found hfound
  cases hfound

/-- A wallet that was sealed again with the owner's password is held with the new one. -/
theorem Owner.Held.resealed {slots : Slots} {record resealed : Record} {keypair : Keypair}
    {text : Option String} {new : String} (hheld : owner.Held phrase slots)
    (hkeeps : slots.KeepsRecord record) (hopens : record.Opens owner.password keypair text)
    (hshows : resealed.Shows keypair) (hopens' : resealed.Opens new keypair text)
    (hconsistent : Consistent (slots.withRecord resealed)) :
    Owner.Held { owner with password := new } phrase (slots.withRecord resealed) := by
  obtain ⟨found, hfound, hfoundshows, hfoundopens⟩ := hheld.record
  obtain rfl := hkeeps.unique hfound
  -- Both say what the old password opens, so they say the same.
  obtain ⟨rfl, rfl⟩ := hopens.unique hfoundopens
  exact ⟨hconsistent, hheld.spelled, hheld.address, resealed.asRead,
    Store.Slots.keepsRecord_insert _ hshows.version, hshows.asRead, hopens'.asRead⟩

/-- The new password opens what the old one opened, which is what the owner has. -/
theorem Owned.changePassword (hsound : world.Sound) (old new : String)
    (h : Owned before world.store.slots) :
    OwnedAfter before settings world (.changePassword old new) := by
  cases hrun : (Wallet.changePassword settings old new).runIn world with
  | mk result after =>
      have hafter : ((Call.changePassword old new).outcome settings world).2 = after := by
        rw [Call.outcome_of_run _ rfl hrun]
      unfold OwnedAfter
      rw [Call.event_of_run (fun _ => .done) rfl hrun, hafter]
      cases result with
      | error e =>
          rw [changePassword_eq_error hsound hrun]
          exact h
      | ok u =>
          obtain ⟨record, resealed, keypair, text, hkeeps, hopens, hshows, hopens', hslots⟩ :=
            changePassword_eq_ok hrun
          intro found hfound
          cases hbefore : before with
          | none =>
              rw [hbefore] at hfound
              cases hfound
          | some owner =>
              rw [hbefore] at hfound
              simp only [Owner.next, Except.map] at hfound
              split at hfound
              · rename_i hold
                cases hfound
                obtain ⟨phrase, hheld⟩ := h owner hbefore
                have hconsistent :=
                  (Call.changePassword old new).writes_end settings world hheld.consistent
                rw [hafter, hslots] at hconsistent
                rw [hslots]
                rw [hold] at hopens
                exact ⟨phrase, hheld.resealed hkeeps hopens hshows hopens' hconsistent⟩
              · -- The old password was not the owner's.
                cases hfound

/-- Whatever is called, what the owner has is held afterwards. -/
theorem Owned.call (hsound : world.Sound) (call : Call) (h : Owned before world.store.slots) :
    OwnedAfter before settings world call := by
  -- Most calls leave the record alone, so nothing changes for the owner.
  have hother : walletKey ∉ call.keys →
      Owned before (call.outcome settings world).2.store.slots := by
    intro hkeys found hfound
    obtain ⟨phrase, hheld⟩ := h found hfound
    exact ⟨phrase, hheld.of_keys settings call hkeys⟩
  cases call with
  | create password => exact h.create hsound password
  | restore typed password => exact h.restore hsound typed password
  | delete => exact Owned.delete hsound
  | changePassword old new => exact h.changePassword hsound old new
  | _ => exact hother fun hmem => Store.walletKey_ne_sessionKey (List.mem_singleton.mp hmem)

end

/-- Along a run, what the owner has is held. -/
theorem Run.owned {start world : World} {past : List Event} (hrun : Run settings start past world) :
    Owned (ownerOf past) world.store.slots := by
  induction hrun with
  | start =>
      intro found hfound
      cases hfound
  | call now call run ih =>
      rw [ownerOf_append]
      exact Owned.call (World.calm_sound _ now) call ih

/-! ### What the owner can count on -/

/-- The password of the owner unlocks the wallet, whenever it is tried, with a session of the
key that the phrase stands for. -/
theorem Owner.Held.unlock (hheld : owner.Held phrase world.store.slots) (settings : Settings)
    (hsound : world.Sound) :
    ∃ summary after, (Wallet.unlock settings owner.password).runIn world = (.ok summary, after)
      ∧ summary.address = owner.address
      ∧ owner.Held phrase after.store.slots
      ∧ after.store.slots.KeepsSession (.begun settings.session phrase.keypair world.now) := by
  obtain ⟨record, hkeeps, hshows, hopens⟩ := hheld.record
  obtain ⟨summary, after, hrun⟩ := unlock_of_opens hsound settings hkeeps hopens.1
  obtain ⟨found, keypair, hfound, hopen, rfl, hslots⟩ := unlock_eq_ok hrun
  obtain rfl := hkeeps.unique hfound
  rw [hopens.1] at hopen
  obtain rfl := Except.ok.inj hopen
  have hafter : ((Call.unlock owner.password).outcome settings world).2 = after := by
    rw [Call.outcome_of_run _ rfl hrun]
  refine ⟨_, after, hrun, ?_, ?_, ?_⟩
  · show found.address = owner.address
    rw [hshows.address, hheld.address]
    rfl
  · rw [← hafter]
    exact hheld.of_keys settings (.unlock owner.password) fun hmem =>
      Store.walletKey_ne_sessionKey (List.mem_singleton.mp hmem)
  · rw [hslots]
    exact Session.keeps_begun _ _ _ _

/-- While a session is live, the password of the owner gives out the private key and the
phrase. -/
theorem Owner.Held.exports (hheld : owner.Held phrase world.store.slots) (hsound : world.Sound)
    {session : Session} (hsession : world.store.slots.KeepsSession session)
    (hlive : session.isLiveAt world.now = true) :
    ((Wallet.exportKey owner.password).runIn world).1 = .ok phrase.keypair.secretHex
      ∧ ((Wallet.exportPhrase owner.password).runIn world).1 = .ok owner.phrase := by
  obtain ⟨record, hkeeps, hshows, hkey, hphrase⟩ := hheld.record
  -- The slots are consistent, so the live session is one of this record.
  obtain ⟨found, keypair, hfound, hsecret, hshown⟩ := hheld.consistent.session_key hsession
  obtain rfl := hkeeps.unique hfound
  have hunlocked : Unlocked world.store.slots world.now found keypair :=
    ⟨hkeeps, ⟨session, hsession, hlive, hsecret⟩, hshown⟩
  constructor
  · rw [exportKey_of_unlocked hsound hunlocked, hkey]
    rfl
  · rw [exportPhrase_of_unlocked hsound hunlocked]
    exact hphrase

/-- No key is ever lost. After any run, let the owner have a phrase, an address and a password.
The phrase stands for a key pair with that address. At any time the password unlocks the wallet
with that address. And while the session that this starts is live, or any other one is, the
password gives out the private key and the phrase. -/
theorem nothing_is_lost {start : World} {past : List Event}
    (hrun : Run settings start past world) (howner : ownerOf past = some owner) :
    ∃ keypair, Phrase.derive owner.phrase = .ok keypair ∧ keypair.address = owner.address
      ∧ (∀ now, ∃ summary after,
          (Wallet.unlock settings owner.password).runIn (world.calm now) = (.ok summary, after)
            ∧ summary.address = owner.address
            ∧ ∀ later, later.before (Session.expiry settings.session now) = true →
                ((exportKey owner.password).runIn (after.calm later)).1 = .ok keypair.secretHex
                  ∧ ((exportPhrase owner.password).runIn (after.calm later)).1 = .ok owner.phrase)
      ∧ ∀ now session, world.store.slots.KeepsSession session → session.isLiveAt now = true →
          ((exportKey owner.password).runIn (world.calm now)).1 = .ok keypair.secretHex
            ∧ ((exportPhrase owner.password).runIn (world.calm now)).1 = .ok owner.phrase := by
  obtain ⟨phrase, hheld⟩ := hrun.owned owner howner
  refine ⟨phrase.keypair, ?_, hheld.address.symm, ?_, ?_⟩
  · rw [Phrase.derive, hheld.spelled]
    rfl
  · intro now
    have hcalm : owner.Held phrase (world.calm now).store.slots := hheld
    obtain ⟨summary, after, hunlock, haddress, hafter, hsession⟩ :=
      hcalm.unlock settings (World.calm_sound world now)
    refine ⟨summary, after, hunlock, haddress, ?_⟩
    intro later hlater
    have hlater' : owner.Held phrase (after.calm later).store.slots := hafter
    exact hlater'.exports (World.calm_sound after later) hsession (Instant.before_asRead hlater)
  · intro now session hsession hlive
    have hcalm : owner.Held phrase (world.calm now).store.slots := hheld
    exact hcalm.exports (World.calm_sound world now) hsession hlive

/-- There is such a run: a wallet is made in an empty store. -/
theorem nothing_is_lost_created :
    ∃ (past : List Event) (world : World) (owner : Owner) (keypair : Keypair),
      Run ⟨.ofSeconds 1800, .light⟩ ⟨Store.empty, .epoch, .ofBytes [7]⟩ past world
        ∧ owner.password = "Correct-Horse-42" ∧ ownerOf past = some owner
        ∧ Phrase.derive owner.phrase = .ok keypair ∧ keypair.address = owner.address := by
  let settings : Settings := ⟨.ofSeconds 1800, .light⟩
  let start : World := ⟨Store.empty, .epoch, .ofBytes [7]⟩
  obtain ⟨created, after, hcreate⟩ := exists_created
  have hstart : Run settings start [] start := .start
  have hrun := hstart.call Instant.epoch (.create "Correct-Horse-42")
  have howner : ownerOf ([] ++ [(Call.create "Correct-Horse-42").event settings
      (start.calm .epoch)])
        = some ⟨created.phrase, created.summary.address, "Correct-Horse-42"⟩ := by
    rw [ownerOf_append, Call.event, Call.outcome, Call.command, runIn_map, hcreate]
    rfl
  obtain ⟨keypair, hderive, haddress, -⟩ := nothing_is_lost hrun howner
  exact ⟨_, _, _, keypair, hrun, rfl, howner, hderive, haddress⟩

end Custody.Wallet
