import Custody.Proofs.Wallet.Crash
import Custody.Proofs.Wallet.Unlocked

/-!
# `Custody.Proofs.Wallet.Look`: what a look at the session finds

Calls differ in what they do with a session: some start or end one, some put its end off, and
many just look whether there is a live one. The functions on events name this (`Event.starts`,
`Event.consults`, `Event.found?` and the others).

All calls that look find the same, whatever else they do. `event_of_live` and `event_of_dead`
say it for a store that does not fail: what the call tells, and what it leaves of the session.
The calls that need the key are treated as one (`Call.command_eq_withKey`): they are `withKey`
followed by steps that neither write nor complain of a locked wallet (`Steady`).
-/

set_option autoImplicit false

namespace Custody.Wallet

open Time Command
open Store (Slots walletKey sessionKey)

/-! ### What events mean for the session -/

namespace Event

/-- A session was started. -/
def starts (event : Event) : Bool :=
  match event.call, event.answer with
  | .create _, .ok _ => true
  | .restore _ _, .ok _ => true
  | .unlock _, .ok _ => true
  | _, _ => false

/-- The session was ended by hand. -/
def stops (event : Event) : Bool :=
  match event.call, event.answer with
  | .lock, .ok _ => true
  | .delete, .ok _ => true
  | _, _ => false

/-- The end of the session was put off. -/
def renews (event : Event) : Bool :=
  match event.call, event.answer with
  | .touch, .ok (.flag true) => true
  | _, _ => false

/-- The session was looked at. Calls that need the key look at it if there is a record. -/
def consults (event : Event) : Bool :=
  match event.call with
  | .touch => true
  | .isUnlocked => true
  | .expiresAt => true
  | .state => true
  | .tick => true
  | .exportPhrase _ => (event.before.lookup? walletKey).isSome
  | .exportKey _ => (event.before.lookup? walletKey).isSome
  | .sign _ _ _ => (event.before.lookup? walletKey).isSome
  | .prepare _ => (event.before.lookup? walletKey).isSome
  | .submission _ _ _ => (event.before.lookup? walletKey).isSome
  | _ => false

/-- Whether an answer says that the wallet is locked. -/
def saysLocked : Except WalletError Answer → Bool
  | .error .locked => true
  | _ => false

/-- Whether the wallet was found unlocked, as far as the call tells. -/
def found? (event : Event) : Option Bool :=
  match event.call, event.answer with
  | .touch, .ok (.flag extended) => some extended
  | .isUnlocked, .ok (.flag unlocked) => some unlocked
  | .expiresAt, .ok (.deadline expiresAt) => some expiresAt.isSome
  | .state, .ok (.state state) => some state.isUnlocked
  | .tick, .ok .done => some (event.after.lookup? sessionKey).isSome
  | .exportPhrase _, answer => some (!saysLocked answer)
  | .exportKey _, answer => some (!saysLocked answer)
  | .sign _ _ _, answer => some (!saysLocked answer)
  | .prepare _, answer => some (!saysLocked answer)
  | .submission _ _ _, answer => some (!saysLocked answer)
  | _, _ => none

end Event

/-- An event that has not looked at the session does not renew it. -/
theorem Event.renews_of_not_consults {event : Event} (h : event.consults = false) :
    event.renews = false := by
  obtain ⟨call, now, answer, before, after⟩ := event
  cases call with
  | touch => cases h
  | _ => rfl

/-! ### What a look at the session says -/

section
variable {settings : Settings} {world after : World} {session : Session}

/-- The wallet is unlocked if a session was found live. -/
theorem isUnlocked_of_live {found : Option Session}
    (h : Session.live.runIn world = (.ok found, after)) :
    isUnlocked.runIn world = (.ok found.isSome, after) := by
  unfold isUnlocked Session.isUnlocked
  rw [runIn_bind, runIn_attempt, h]
  rfl

/-- The end that is told is that of the session that was found. -/
theorem expiresAt_of_live {found : Option Session}
    (h : Session.live.runIn world = (.ok found, after)) :
    expiresAt.runIn world = (.ok (found.map Session.expiresAt), after) := by
  unfold expiresAt Session.deadline
  rw [runIn_bind, h]
  rfl

/-- The session that a touch leaves behind. -/
def renewed (settings : Settings) (session : Session) (now : Instant) : Session :=
  { session with expiresAt := Session.expiry settings.session now }

/-- A touch puts off the end of a live session. -/
theorem touch_of_live (hsound : world.Sound)
    (h : Session.live.runIn world = (.ok (some session), world.read)) :
    (touch settings).runIn world = (.ok true, world.read.wrote
      (.set sessionKey (renewed settings session world.now).text .done)) := by
  unfold touch Session.refresh
  rw [runIn_bind, h]
  simp only
  rw [runIn_bind, runIn_now]
  simp only
  rw [runIn_bind, Session.save, runIn_set_sound hsound.read]
  rfl

/-- Without a live session a touch does nothing more than look. -/
theorem touch_of_dead (h : Session.live.runIn world = (.ok none, after)) :
    (touch settings).runIn world = (.ok false, after) := by
  unfold touch Session.refresh
  rw [runIn_bind, h]
  rfl

/-- A tick of the timer does nothing more than look. -/
theorem autoLock_of_live {found : Option Session}
    (h : Session.live.runIn world = (.ok found, after)) :
    autoLock.runIn world = (.ok (), after) := by
  unfold autoLock
  rw [runIn_discard]
  show ((isUnlocked.runIn world).1.map fun _ => (), (isUnlocked.runIn world).2) = _
  rw [isUnlocked_of_live h]
  rfl

end

section
variable {world after : World} {session : Session} {record : Record} {keypair : Keypair}

/-- With a live session of its key, the record is shown unlocked. -/
theorem state_of_unlocked (hsound : world.Sound) (hkeeps : world.store.slots.KeepsRecord record)
    (hsession : world.store.slots.KeepsSession session)
    (hlive : session.isLiveAt world.now = true)
    (hkey : Keypair.ofHex session.privateKey = .ok keypair)
    (hshown : keypair.publicKey.toHex = record.publicKey) :
    state.runIn world = (.ok (.unlocked record.address record.publicKey session.privateKey),
      world.read.read) := by
  unfold state
  rw [runIn_bind, Keystore.load_of_keeps hsound hkeeps]
  simp only
  rw [runIn_bind, Session.live_of_keeps hsound.read hsession hlive]
  simp only [hkey, hshown, if_true]
  rfl

/-- Without a live session the state is absent or locked. -/
theorem state_of_dead (hsound : world.Sound) (hconsistent : Consistent world.store.slots)
    (h : Session.live.runIn world.read = (.ok none, after)) :
    ∃ shown, shown.isUnlocked = false ∧ state.runIn world = (.ok shown, after) := by
  unfold state
  rw [runIn_bind]
  cases hslot : world.store.slots.lookup? walletKey with
  | none =>
      rw [Keystore.load_of_none hsound hslot]
      simp only
      rw [runIn_bind, h]
      exact ⟨.absent, rfl, rfl⟩
  | some slot =>
      obtain ⟨record, hkeeps, -⟩ := hconsistent.record (by rw [hslot]; exact Option.some_ne_none _)
      rw [Keystore.load_of_keeps hsound hkeeps]
      simp only
      rw [runIn_bind, h]
      exact ⟨.locked record.address record.publicKey, rfl, rfl⟩

end

/-! ### Calls that need the key -/

/-- A command that writes nothing and does not complain of a locked wallet. -/
def Steady {α : Type} (command : Command α) : Prop :=
  ∀ world, (command.runIn world).2 = world ∧ (command.runIn world).1 ≠ .error .locked

namespace Steady

variable {α β : Type}

/-- A result is steady if it does not say that the wallet is locked. -/
theorem answer {result : Except WalletError α} (h : result ≠ .error .locked) :
    Steady (Command.answer result) :=
  fun _ => ⟨rfl, h⟩

/-- A value is steady. -/
theorem pure (a : α) : Steady (Pure.pure a) :=
  fun _ => ⟨rfl, fun h => by cases h⟩

/-- A failure for another reason is steady. -/
theorem fail {e : WalletError} (h : e ≠ .locked) : Steady (Command.fail e : Command α) :=
  fun _ => ⟨rfl, fun heq => h (Except.error.inj heq)⟩

/-- Steady commands are steady one after the other. -/
theorem bind {command : Command α} {next : α → Command β} (h : Steady command)
    (hnext : ∀ a, Steady (next a)) : Steady (command >>= next) := by
  intro world
  obtain ⟨hworld, hresult⟩ := h world
  rw [runIn_bind]
  cases hrun : command.runIn world with
  | mk result after =>
      rw [hrun] at hworld hresult
      cases result with
      | error e => exact ⟨hworld, fun heq => hresult (congrArg _ (Except.error.inj heq))⟩
      | ok a =>
          obtain rfl : after = world := hworld
          exact hnext a after

/-- A mapped command is steady. -/
theorem map {command : Command α} (f : α → β) (h : Steady command) : Steady (f <$> command) := by
  intro world
  obtain ⟨hworld, hresult⟩ := h world
  rw [runIn_map]
  refine ⟨hworld, ?_⟩
  cases hrun : (command.runIn world).1 with
  | error e =>
      rw [hrun] at hresult
      exact fun heq => hresult (congrArg _ (Except.error.inj heq))
  | ok a => exact fun heq => by cases heq

/-- Reading an address is steady. -/
theorem receiver (typed : String) : Steady (Wallet.receiver typed) := by
  unfold Wallet.receiver
  cases Address.parse typed with
  | error fault => exact fail (by cases fault <;> exact fun h => by cases h)
  | ok key => exact pure key

end Steady

/-- No opening fails because the wallet is locked. -/
theorem ofOpening_ne_locked (e : Sealed.Error) : WalletError.ofOpening e ≠ .locked := by
  cases e <;> exact fun h => by cases h

/-- Opening the key of a record does not fail because the wallet is locked. -/
theorem openKeypair_ne_locked (record : Record) (password : String) :
    record.openKeypair password ≠ .error .locked := by
  unfold Record.openKeypair
  split
  · exact fun h => ofOpening_ne_locked _ (Except.error.inj h)
  split
  · exact fun h => by cases h
  split <;> exact fun h => by cases h

/-- Opening the phrase of a record does not fail because the wallet is locked. -/
theorem openPhrase_ne_locked (record : Record) (password : String) :
    record.openPhrase password ≠ .error .locked := by
  unfold Record.openPhrase
  split
  · exact fun h => by cases h
  split
  · exact fun h => ofOpening_ne_locked _ (Except.error.inj h)
  split <;> exact fun h => by cases h

/-- The calls that need the key of the unlocked wallet. -/
def Call.needsKey : Call → Bool
  | .exportPhrase _ => true
  | .exportKey _ => true
  | .sign _ _ _ => true
  | .prepare _ => true
  | .submission _ _ _ => true
  | _ => false

section
variable {α β : Type} {next : Record → Keypair → Command α}

/-- An answer may be mapped behind the check for the key. -/
theorem map_withKey (f : α → β) :
    f <$> withKey next = withKey fun record keypair => f <$> next record keypair := by
  unfold withKey
  rw [map_bind]
  congr 1
  funext record
  rw [map_bind]

/-- A command may go on behind the check for the key. -/
theorem withKey_bind (more : α → Command β) :
    withKey next >>= more = withKey fun record keypair => next record keypair >>= more := by
  unfold withKey
  rw [bind_assoc]
  congr 1
  funext record
  rw [bind_assoc]

end

/-- Signing with a key at hand is steady. -/
theorem Steady.signWith (keypair : Keypair) (typed : String) (amount nonce : UInt64) :
    Steady (Wallet.signWith keypair typed amount nonce) := by
  refine (Steady.receiver typed).bind fun payee => ?_
  split
  · exact .pure _
  · exact .fail fun h => by cases h

/-- The calls that need the key ask for it first, and nothing else can lock the wallet. -/
theorem Call.command_eq_withKey {call : Call} (h : call.needsKey = true) (settings : Settings) :
    ∃ next : Record → Keypair → Command Answer,
      call.command settings = withKey next ∧ ∀ record keypair, Steady (next record keypair) := by
  cases call with
  | exportPhrase password =>
      refine ⟨_, map_withKey Answer.text, fun record keypair => Steady.map _ ?_⟩
      exact .answer (openPhrase_ne_locked record password)
  | exportKey password =>
      refine ⟨_, map_withKey Answer.text, fun record keypair => Steady.map _ ?_⟩
      exact (Steady.answer (openKeypair_ne_locked record password)).bind fun _ => .pure _
  | sign typed amount nonce =>
      refine ⟨_, map_withKey Answer.transaction, fun record keypair => Steady.map _ ?_⟩
      exact Steady.signWith keypair typed amount nonce
  | prepare typed =>
      refine ⟨_, map_withKey Answer.record, fun record keypair => Steady.map _ ?_⟩
      exact (Steady.receiver typed).bind fun _ => .pure _
  | submission typed amount nonce =>
      -- A submission is a signed transfer put in another form.
      refine ⟨_, (congrArg _ (withKey_bind _)).trans (map_withKey _),
        fun record keypair => Steady.map _ ?_⟩
      refine (Steady.signWith keypair typed amount nonce).bind fun tx => ?_
      cases tx.toSubmission with
      | none => exact .fail fun h => by cases h
      | some submission => exact .pure _
  | _ => cases h

/-! ### All looks find the same -/

section
variable {settings : Settings} {world : World} {session : Session}

/-- What is under the session's key in consistent slots is a text. -/
theorem readable_of_consistent {slots : Slots} (h : Consistent slots) : ReadableSession slots := by
  intro hslot
  obtain ⟨-, session, -, -, ⟨text, htext, -⟩, -⟩ :=
    h.session (by rw [hslot]; exact Option.some_ne_none _)
  rw [hslot] at htext
  cases htext

/-- A call that needs the key looks at the session if there is a record. -/
theorem consults_of_needsKey {call : Call} (h : call.needsKey = true) :
    (call.event settings world).consults = (world.store.slots.lookup? walletKey).isSome := by
  cases call with
  | exportPhrase password => rfl
  | exportKey password => rfl
  | sign typed amount nonce => rfl
  | prepare typed => rfl
  | submission typed amount nonce => rfl
  | _ => cases h

/-- A call that needs the key finds the wallet unlocked if it does not say that it is locked. -/
theorem found?_of_needsKey {call : Call} (h : call.needsKey = true) :
    (call.event settings world).found?
      = some (!Event.saysLocked (call.outcome settings world).1) := by
  cases call with
  | exportPhrase password => rfl
  | exportKey password => rfl
  | sign typed amount nonce => rfl
  | prepare typed => rfl
  | submission typed amount nonce => rfl
  | _ => cases h

/-- Only a touch puts off the end of a session. -/
theorem renews_of_ne_touch {call : Call} (h : call ≠ .touch) :
    (call.event settings world).renews = false := by
  cases call with
  | touch => exact absurd rfl h
  | _ => rfl

/-- Any other answer does not say that the wallet is locked. -/
theorem saysLocked_eq_false {answer : Except WalletError Answer} (h : answer ≠ .error .locked) :
    Event.saysLocked answer = false := by
  unfold Event.saysLocked
  split
  · exact absurd rfl h
  · rfl

/-- A call that needs the key finds the live session, and leaves the slots as they are. -/
theorem event_of_live_of_needsKey (hsound : world.Sound)
    (hconsistent : Consistent world.store.slots)
    (hsession : world.store.slots.KeepsSession session)
    (hlive : session.isLiveAt world.now = true) {call : Call} (hneeds : call.needsKey = true) :
    (call.event settings world).found? = some true
      ∧ (call.event settings world).after = world.store.slots := by
  -- In consistent slots the session's key is the record's.
  obtain ⟨record, keypair, hkeeps, hkey, hshown⟩ := hconsistent.session_key hsession
  obtain ⟨next, hcommand, hsteady⟩ := call.command_eq_withKey hneeds settings
  have houtcome : call.outcome settings world = (next record keypair).runIn world.read.read := by
    rw [Call.outcome, hcommand,
      withKey_of_unlocked hsound ⟨hkeeps, ⟨session, hsession, hlive, hkey⟩, hshown⟩]
  obtain ⟨hworld, hresult⟩ := hsteady record keypair world.read.read
  constructor
  · rw [found?_of_needsKey hneeds, houtcome, saysLocked_eq_false hresult]
    rfl
  · show (call.outcome settings world).2.store.slots = _
    rw [houtcome, hworld]
    rfl

/-- A call that looks at a live session tells that it is there, and keeps it. Only a touch gives
it another deadline. -/
theorem event_of_live (hsound : world.Sound) (hconsistent : Consistent world.store.slots)
    (hsession : world.store.slots.KeepsSession session)
    (hlive : session.isLiveAt world.now = true) {call : Call}
    (hconsults : (call.event settings world).consults = true) :
    (call.event settings world).found? = some true
      ∧ ∃ kept, (call.event settings world).after.KeepsSession kept
        ∧ kept.expiresAt = if (call.event settings world).renews then
            Session.keptUntil settings.session world.now
          else session.expiresAt := by
  by_cases hneeds : call.needsKey = true
  · have hne : call ≠ .touch := by
      rintro rfl
      cases hneeds
    obtain ⟨hfound, hafter⟩ :=
      event_of_live_of_needsKey hsound hconsistent hsession hlive hneeds
    refine ⟨hfound, session, ?_, ?_⟩
    · rw [hafter]
      exact hsession
    · rw [renews_of_ne_touch hne]
      rfl
  · have hrun := Session.live_of_keeps hsound hsession hlive
    cases call with
    | touch =>
        rw [Call.event_of_run .flag rfl (touch_of_live hsound hrun)]
        exact ⟨rfl, (renewed settings session world.now).asRead,
          Store.Slots.keepsSession_insert _ _, rfl⟩
    | isUnlocked =>
        rw [Call.event_of_run .flag rfl (isUnlocked_of_live hrun)]
        exact ⟨rfl, session, hsession, rfl⟩
    | expiresAt =>
        rw [Call.event_of_run .deadline rfl (expiresAt_of_live hrun)]
        exact ⟨rfl, session, hsession, rfl⟩
    | state =>
        obtain ⟨record, keypair, hkeeps, hkey, hshown⟩ := hconsistent.session_key hsession
        rw [Call.event_of_run .state rfl
          (state_of_unlocked hsound hkeeps hsession hlive hkey hshown)]
        exact ⟨rfl, session, hsession, rfl⟩
    | tick =>
        rw [Call.event_of_run (fun _ => .done) rfl (autoLock_of_live hrun)]
        refine ⟨?_, session, hsession, rfl⟩
        exact congrArg some (Option.isSome_iff_ne_none.mpr hsession.lookup?_ne_none)
    | exportPhrase password => exact absurd rfl hneeds
    | exportKey password => exact absurd rfl hneeds
    | sign typed amount nonce => exact absurd rfl hneeds
    | prepare typed => exact absurd rfl hneeds
    | submission typed amount nonce => exact absurd rfl hneeds
    | _ => cases hconsults

/-- Where no session is live, looking for one finds none and leaves none behind. -/
theorem live_of_dead (hsound : world.Sound) (hreadable : ReadableSession world.store.slots)
    (hdead : ∀ session, world.store.slots.KeepsSession session →
      session.isLiveAt world.now = false) :
    ∃ after, Session.live.runIn world = (.ok none, after)
      ∧ after.store.slots.lookup? sessionKey = none := by
  rcases live_cases hsound hreadable with ⟨session, hsession, hlive, -⟩ | ⟨-, hnone⟩
  · rw [hdead session hsession] at hlive
    cases hlive
  · obtain ⟨after, hrun, -, -, hafter⟩ := hnone
    refine ⟨after, hrun, ?_⟩
    rw [hafter]
    exact Store.Slots.lookup?_erase_self

/-- A call that needs the key says that the wallet is locked, and leaves no session behind. -/
theorem event_of_dead_of_needsKey (hsound : world.Sound)
    (hreadable : ReadableSession world.store.slots) {record : Record}
    (hkeeps : world.store.slots.KeepsRecord record)
    (hdead : ∀ session, world.store.slots.KeepsSession session →
      session.isLiveAt world.now = false) {call : Call} (hneeds : call.needsKey = true) :
    (call.event settings world).found? = some false
      ∧ (call.event settings world).after.lookup? sessionKey = none := by
  have hlocked : ∀ keypair, ¬ Unlocked world.store.slots world.now record keypair := by
    intro keypair hunlocked
    obtain ⟨session, hsession, hlive, -⟩ := hunlocked.live
    rw [hdead session hsession] at hlive
    cases hlive
  obtain ⟨next, hcommand, -⟩ := call.command_eq_withKey hneeds settings
  obtain ⟨after, houtcome, hslots⟩ := withKey_of_locked hsound hreadable hkeeps hlocked
  rw [← hcommand] at houtcome
  constructor
  · rw [found?_of_needsKey hneeds, Call.outcome, houtcome]
    rfl
  · show (call.outcome settings world).2.store.slots.lookup? sessionKey = none
    rw [Call.outcome, houtcome, hslots]
    exact Store.Slots.lookup?_erase_self

/-- A call that looks for a live session and finds none tells that, and leaves none behind. -/
theorem event_of_dead (hsound : world.Sound) (hconsistent : Consistent world.store.slots)
    (hdead : ∀ session, world.store.slots.KeepsSession session →
      session.isLiveAt world.now = false) {call : Call}
    (hconsults : (call.event settings world).consults = true) :
    (call.event settings world).found? = some false
      ∧ (call.event settings world).after.lookup? sessionKey = none := by
  have hreadable := readable_of_consistent hconsistent
  by_cases hneeds : call.needsKey = true
  · -- Without a record, a call that needs the key would not have looked.
    rw [consults_of_needsKey hneeds] at hconsults
    obtain ⟨record, hkeeps, -⟩ := hconsistent.record (Option.isSome_iff_ne_none.mp hconsults)
    exact event_of_dead_of_needsKey hsound hreadable hkeeps hdead hneeds
  · obtain ⟨after, hrun, hafter⟩ := live_of_dead hsound hreadable hdead
    cases call with
    | touch =>
        rw [Call.event_of_run .flag rfl (touch_of_dead hrun)]
        exact ⟨rfl, hafter⟩
    | isUnlocked =>
        rw [Call.event_of_run .flag rfl (isUnlocked_of_live hrun)]
        exact ⟨rfl, hafter⟩
    | expiresAt =>
        rw [Call.event_of_run .deadline rfl (expiresAt_of_live hrun)]
        exact ⟨rfl, hafter⟩
    | state =>
        -- The state looks at the record first.
        obtain ⟨after, hrun, hafter⟩ := live_of_dead hsound.read hreadable hdead
        obtain ⟨shown, hshown, hstate⟩ := state_of_dead hsound hconsistent hrun
        rw [Call.event_of_run .state rfl hstate]
        exact ⟨congrArg some hshown, hafter⟩
    | tick =>
        rw [Call.event_of_run (fun _ => .done) rfl (autoLock_of_live hrun)]
        refine ⟨?_, hafter⟩
        show some (after.store.slots.lookup? sessionKey).isSome = some false
        rw [hafter]
        rfl
    | exportPhrase password => exact absurd rfl hneeds
    | exportKey password => exact absurd rfl hneeds
    | sign typed amount nonce => exact absurd rfl hneeds
    | prepare typed => exact absurd rfl hneeds
    | submission typed amount nonce => exact absurd rfl hneeds
    | _ => cases hconsults

end

end Custody.Wallet
