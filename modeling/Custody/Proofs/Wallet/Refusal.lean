import Custody.Proofs.Wallet.Exchange
import Custody.Proofs.Wallet.Harmless

/-!
# `Custody.Proofs.Wallet.Refusal`: a call that fails changes nothing

Every command of the wallet settles what can be refused before it writes, on any store, failing
or not. `Clean` says of one command in one world that what it has written when it fails is
excused by its error. It composes along the chain of steps: steps that only look come first
(`Clean.bind`), and the writes, which fail for the store's reasons only, come last
(`Commits.clean`).

`Call.clean` has it for every call, and `failed_call_changes_nothing` says what it means for the
store, of every call of the wallet and of whole transfers.
-/

set_option autoImplicit false

namespace Custody

open Time Command
open Store (Slots walletKey sessionKey)

/-! ### Commands that fail cleanly -/

section
variable {α β : Type} (new? : Option Record) (forgets : Bool)

/-- Where the command fails in this world, the error excuses what it has written. -/
def Clean (command : Command α) (world : World) : Prop :=
  ∀ e after, command.runIn world = (.error e, after) → ∃ writes, world.Follows after writes
    ∧ Excused new? forgets world.store.slots world.now e writes

/-- The command makes these writes only, and fails only where the store does. -/
def Commits (command : Command α) : Prop :=
  ∀ world, ∃ writes, world.Follows (command.runIn world).2 writes
    ∧ (∀ write ∈ writes, MayWrite new? forgets write)
    ∧ ∀ e, (command.runIn world).1 = .error e → ∃ s, e = .storage s

end

section
variable {α β : Type} {new? : Option Record} {forgets : Bool} {world : World}
  {command : Command α} {next : α → Command β}

namespace Clean

/-- A command that cannot fail. -/
theorem of_ok (h : ∀ e after, command.runIn world ≠ (.error e, after)) :
    Clean new? forgets command world :=
  fun e after hrun => absurd hrun (h e after)

/-- A command that changes nothing in the store where it fails, and that is not about locked
wallets. -/
theorem of_still (h : ∀ e after, command.runIn world = (.error e, after) →
      world.Follows after [] ∧ e ≠ .locked) :
    Clean new? forgets command world := by
  intro e after hrun
  obtain ⟨hfollows, hne⟩ := h e after hrun
  exact ⟨[], hfollows, .nil hne⟩

/-- A value alone fails nowhere. -/
theorem pure (a : α) : Clean new? forgets (Pure.pure a) world :=
  of_ok fun _ _ h => by cases h

/-- A steady command is clean. -/
theorem of_steady (h : Wallet.Steady command) : Clean new? forgets command world := by
  refine of_still fun e after hrun => ?_
  obtain ⟨hworld, hresult⟩ := h world
  rw [hrun] at hworld hresult
  subst hworld
  exact ⟨.refl _, fun heq => hresult (by rw [heq])⟩

/-- A draw writes nothing, so it is clean if it does not say that the wallet is locked. -/
theorem onTape {draw : Tape → Except WalletError α × Tape}
    (h : ∀ tape, (draw tape).1 ≠ .error .locked) :
    Clean new? forgets (Command.onTape draw) world := by
  refine of_still fun e after hrun => ?_
  rw [runIn_onTape] at hrun
  injection hrun with hresult hafter
  subst hafter
  exact ⟨.onTape world _, fun heq => h world.tape (by rw [hresult, heq])⟩

/-- A step that writes nothing where it succeeds, and then another. -/
theorem bind (h : Clean new? forgets command world)
    (hnext : ∀ a between, command.runIn world = (.ok a, between) →
      world.Follows between [] ∧ Clean new? forgets (next a) between) :
    Clean new? forgets (command >>= next) world := by
  intro e after hrun
  rcases runIn_bind_eq_error.mp hrun with hfirst | ⟨a, between, hfirst, hrest⟩
  · exact h e after hfirst
  · obtain ⟨hfollows, hclean⟩ := hnext a between hfirst
    obtain ⟨writes, hwrites, hexcused⟩ := hclean e after hrest
    -- The first step has changed neither the slots nor the clock.
    rw [hfollows.slots_nil, hfollows.now] at hexcused
    exact ⟨[] ++ writes, hfollows.trans hwrites, hexcused⟩

/-- A step of any kind, and then an answer that cannot fail. -/
theorem bind_pure (f : α → β) (h : Clean new? forgets command world) :
    Clean new? forgets (command >>= fun a => Pure.pure (f a)) world := by
  intro e after hrun
  rcases runIn_bind_eq_error.mp hrun with hcommand | ⟨a, between, -, hpure⟩
  · exact h e after hcommand
  · cases hpure

/-- A mapped command is clean. -/
theorem map (f : α → β) (h : Clean new? forgets command world) :
    Clean new? forgets (f <$> command) world := by
  rw [map_eq_pure_bind]
  exact h.bind_pure f

/-- A command is clean if it is when it is mapped. -/
theorem of_map {f : α → β} (h : Clean new? forgets (f <$> command) world) :
    Clean new? forgets command world := by
  intro e after hrun
  refine h e after ?_
  rw [runIn_map, hrun]
  rfl

/-- A clean command that failed has done no harm. -/
theorem harmless {after : World} {e : WalletError} (h : Clean new? forgets command world)
    (hrun : command.runIn world = (.error e, after)) :
    Harmless world after [world.now] new? forgets e := by
  obtain ⟨writes, hfollows, hexcused⟩ := h e after hrun
  exact .of_excused (List.mem_singleton.mpr rfl) hfollows.journal hfollows.slots hexcused

end Clean

namespace Commits

/-- A command that commits is clean. -/
theorem clean (h : Commits new? forgets command) : Clean new? forgets command world := by
  intro e after hrun
  obtain ⟨writes, hfollows, hwrites, hstorage⟩ := h world
  rw [hrun] at hfollows hstorage
  obtain ⟨s, rfl⟩ := hstorage e rfl
  exact ⟨writes, hfollows, hwrites⟩

/-- A value alone writes nothing. -/
theorem pure (a : α) : Commits new? forgets (Pure.pure a) :=
  fun world => ⟨[], .refl world, fun _ h => absurd h List.not_mem_nil, fun _ h => by cases h⟩

/-- Reading the clock fails nowhere. -/
theorem now : Commits new? forgets Command.now :=
  fun world => ⟨[], .refl world, fun _ h => absurd h List.not_mem_nil, fun _ h => by cases h⟩

/-- Commands that commit do so one after the other. -/
theorem bind (h : Commits new? forgets command)
    (hnext : ∀ a, Commits new? forgets (next a)) : Commits new? forgets (command >>= next) := by
  intro world
  obtain ⟨writes, hfollows, hwrites, hstorage⟩ := h world
  rw [runIn_bind]
  cases hrun : command.runIn world with
  | mk result between =>
      rw [hrun] at hfollows hstorage
      cases result with
      | error e =>
          refine ⟨writes, hfollows, hwrites, fun e' he => ?_⟩
          exact hstorage e' (congrArg _ (Except.error.inj he))
      | ok a =>
          obtain ⟨more, hfollows', hmore, hstorage'⟩ := hnext a between
          refine ⟨writes ++ more, hfollows.trans hfollows', ?_, hstorage'⟩
          intro write hwrite
          cases List.mem_append.mp hwrite with
          | inl hfirst => exact hwrites write hfirst
          | inr hsecond => exact hmore write hsecond

/-- One write. -/
theorem write (call : Store.Call) (key : String) {note : Store.Fate → Store.Write}
    (h : ∀ fate, MayWrite new? forgets (note fate)) :
    Commits new? forgets (Command.onStore (·.write call key note)) := by
  intro world
  rw [runIn_onStore_write]
  refine ⟨_, .wrote world _, ?_, ?_⟩
  · intro write hwrite
    rw [List.mem_singleton.mp hwrite]
    exact h _
  · intro e he
    split at he
    · cases he
    · exact ⟨⟨key⟩, (Except.error.inj he).symm⟩

/-- Ending a session commits to its one write. -/
theorem finish : Commits new? forgets Session.finish := write .delete sessionKey .endSession

/-- Saving a session commits to its one write. -/
theorem save (session : Session) : Commits new? forgets session.save :=
  write .set sessionKey (.putSession session)

/-- Saving the new record commits to its one write. -/
theorem saveRecord {record : Record} (h : new? = some record) :
    Commits new? forgets (Keystore.save record) :=
  write .set walletKey fun fate => .putRecord record fate h

/-- Starting a session commits to its one write. -/
theorem start (length : Span) (privateKey : String) :
    Commits new? forgets (Session.start length privateKey) :=
  now.bind fun _ => (save _).bind fun _ => pure _

end Commits

end

/-! ### Looking at the record and at the session -/

/-- Reading fails for the store's reasons only, and changes nothing. -/
theorem Command.runIn_get_eq_error {world after : World} {key : String} {e : WalletError}
    (h : (get key).runIn world = (.error e, after)) :
    after = world.read ∧ e = .storage ⟨key⟩ := by
  have hafter : ((get key).runIn world).2 = world.read := snd_runIn_get key
  rw [h] at hafter
  refine ⟨hafter, ?_⟩
  unfold get onStore ofFun runIn Store.get at h
  cases hfate : world.store.nextFate .get key with
  | done =>
      simp only [hfate] at h
      cases hslot : world.store.slots.lookup? key with
      | none =>
          rw [hslot] at h
          cases h
      | some slot =>
          rw [hslot] at h
          cases slot <;> cases h
          rfl
  | refused =>
      simp only [hfate] at h
      cases h
      rfl
  | lost =>
      simp only [hfate] at h
      cases h
      rfl

namespace Keystore

/-- No text is refused because the wallet is locked. -/
theorem decode_ne_locked (text : String) : decode text ≠ .error .locked := by
  unfold decode
  split
  · exact fun h => by cases h
  split
  · exact fun h => by cases h
  split <;> exact fun h => by cases h

variable {new? : Option Record} {forgets : Bool} {world : World}

/-- Looking for the record is clean. -/
theorem clean_load : Clean new? forgets load world := by
  refine Clean.of_still fun e after h => ?_
  refine ⟨load_eq_error h ▸ .read world, ?_⟩
  unfold load at h
  rcases runIn_bind_eq_error.mp h with hget | ⟨found, between, -, hrest⟩
  · obtain ⟨-, rfl⟩ := runIn_get_eq_error hget
    exact fun heq => by cases heq
  · cases found with
    | none => cases hrest
    | some text =>
        rcases runIn_bind_eq_error.mp hrest with hdecode | ⟨record, between', -, hpure⟩
        · rw [runIn_answer] at hdecode
          injection hdecode with hresult
          exact fun heq => decode_ne_locked text (by rw [hresult, heq])
        · cases hpure

/-- Asking for the record is clean. -/
theorem clean_require : Clean new? forgets require world := by
  refine clean_load.bind fun found between hload => ?_
  obtain ⟨rfl, -⟩ := load_eq_ok hload
  refine ⟨.read world, ?_⟩
  cases found with
  | none => exact .of_steady (.fail fun h => by cases h)
  | some record => exact .pure record

end Keystore

namespace Session

variable {new? : Option Record} {forgets : Bool} {world : World}

/-- A session that does not unlock is removed, or the store fails. -/
theorem clean_remove (h : Stale world.store.slots world.now) {α : Type} :
    Clean new? forgets (finish >>= fun _ => (fail .locked : Command α)) world := by
  intro e after hrun
  rcases runIn_bind_eq_error.mp hrun with hfinish | ⟨u, between, hfinish, hfail⟩
  · exact Commits.finish.clean e after hfinish
  · have hbetween := runIn_delete_eq_ok hfinish
    subst hbetween
    cases hfail
    exact ⟨_, .wrote world _, .inr ⟨rfl, h⟩⟩

/-- What looking for a live session comes to, on any store. -/
theorem live_cases (new? : Option Record) (forgets : Bool) (world : World) :
    -- It is found.
    (∃ session, live.runIn world = (.ok (some session), world.read)
        ∧ world.store.slots.KeepsSession session ∧ session.isLiveAt world.now = true)
      -- There is none.
      ∨ (live.runIn world = (.ok none, world.read)
        ∧ world.store.slots.lookup? sessionKey = none)
      -- There was one that was good for nothing, and it is gone.
      ∨ (∃ after, live.runIn world = (.ok none, after)
        ∧ world.Follows after [.delete sessionKey .done] ∧ Stale world.store.slots world.now)
      -- The store has failed.
      ∨ ∃ key after writes, live.runIn world = (.error (.storage ⟨key⟩), after)
        ∧ world.Follows after writes ∧ ∀ write ∈ writes, MayWrite new? forgets write := by
  have hremove (hstale : Stale world.store.slots world.now) :
      (∃ after, (finish >>= fun _ => (pure none : Command (Option Session))).runIn world.read
            = (.ok none, after)
          ∧ world.Follows after [.delete sessionKey .done] ∧ Stale world.store.slots world.now)
        ∨ ∃ key after writes,
          (finish >>= fun _ => (pure none : Command (Option Session))).runIn world.read
            = (.error (.storage ⟨key⟩), after)
          ∧ world.Follows after writes ∧ ∀ write ∈ writes, MayWrite new? forgets write := by
    have hfollows := (World.Follows.read world).trans (.wrote world.read
      (.delete sessionKey (world.read.store.nextFate .delete sessionKey)))
    rw [runIn_bind, finish, runIn_delete]
    by_cases hfate : world.read.store.nextFate .delete sessionKey = .done
    · rw [hfate] at hfollows
      rw [if_pos hfate, hfate]
      exact .inl ⟨_, rfl, hfollows, hstale⟩
    · rw [if_neg hfate]
      refine .inr ⟨sessionKey, _, _, rfl, hfollows, ?_⟩
      intro write hwrite
      rw [List.mem_singleton.mp hwrite]
      exact .endSession _
  unfold live
  rw [runIn_bind]
  cases hget : (get sessionKey).runIn world with
  | mk result between =>
      cases result with
      | error e =>
          obtain ⟨rfl, rfl⟩ := runIn_get_eq_error hget
          refine .inr (.inr (.inr ⟨_, _, [], rfl, .read world, ?_⟩))
          exact fun _ h => absurd h List.not_mem_nil
      | ok found =>
          obtain ⟨rfl, hslot⟩ := runIn_get_eq_ok hget
          cases found with
          | none => exact .inr (.inl ⟨rfl, hslot⟩)
          | some text =>
              simp only
              cases hread : ofText? text with
              | none => exact .inr (.inr (hremove (.unreadable text hslot hread)))
              | some session =>
                  have hkeeps : world.store.slots.KeepsSession session := ⟨text, hslot, hread⟩
                  simp only
                  rw [runIn_bind, runIn_now]
                  cases hlive : session.isLiveAt world.now with
                  | true =>
                      simp only [World.read_now, hlive, if_true]
                      exact .inl ⟨session, rfl, hkeeps, hlive⟩
                  | false =>
                      simp only [World.read_now, hlive]
                      rw [if_neg Bool.false_ne_true]
                      exact .inr (.inr (hremove (.expired session hkeeps hlive)))

/-- Looking for a live session, and then a step that changes nothing where there is none: it
succeeds, or says that the wallet is locked. -/
theorem clean_live_bind {α : Type} {next : Option Session → Command α}
    (hnone : ∀ between e after, (next none).runIn between = (.error e, after) →
      after = between ∧ e = .locked)
    (hsome : ∀ session, world.store.slots.KeepsSession session →
      session.isLiveAt world.now = true → Clean new? forgets (next (some session)) world.read) :
    Clean new? forgets (live >>= next) world := by
  intro e after hrun
  rw [runIn_bind] at hrun
  rcases live_cases new? forgets world with ⟨session, hlive, hkeeps, htime⟩ | ⟨hlive, hslot⟩
    | ⟨between, hlive, hfollows, hstale⟩ | ⟨key, between, writes, hlive, hfollows, hwrites⟩
  · rw [hlive] at hrun
    obtain ⟨writes, hfollows, hexcused⟩ := hsome session hkeeps htime e after hrun
    exact ⟨writes, (World.Follows.read world).trans hfollows, hexcused⟩
  · rw [hlive] at hrun
    obtain ⟨rfl, rfl⟩ := hnone _ _ _ hrun
    exact ⟨[], .read world, .inl ⟨rfl, hslot⟩⟩
  · rw [hlive] at hrun
    obtain ⟨rfl, rfl⟩ := hnone _ _ _ hrun
    exact ⟨_, hfollows, .inr ⟨rfl, hstale⟩⟩
  · rw [hlive] at hrun
    cases hrun
    exact ⟨writes, hfollows, hwrites⟩

/-- Asking for the secret is clean. -/
theorem clean_secret : Clean new? forgets Session.secret world := by
  refine clean_live_bind ?_ fun session _ _ => .pure _
  intro between e after hrun
  cases hrun
  exact ⟨rfl, rfl⟩

/-- Putting off the end of a session is clean. -/
theorem clean_refresh (length : Span) : Clean new? forgets (refresh length) world := by
  refine clean_live_bind ?_ fun session _ _ => ?_
  · intro between e after hrun
    cases hrun
  · exact (Commits.now.bind fun _ => (Commits.save _).bind fun _ => .pure _).clean

/-- Asking for the deadline is clean. -/
theorem clean_deadline : Clean new? forgets deadline world := by
  refine clean_live_bind ?_ fun session _ _ => .pure _
  intro between e after hrun
  cases hrun

/-- A store that fails counts as locked. -/
theorem clean_isUnlocked : Clean new? forgets Session.isUnlocked world := by
  refine Clean.of_ok fun e after h => ?_
  unfold Session.isUnlocked at h
  rw [runIn_bind, runIn_attempt] at h
  cases hlive : live.runIn world with
  | mk result between =>
      rw [hlive] at h
      cases result <;> cases h

end Session

/-! ### The commands of the wallet -/

/-- Nothing but sealing fails when a record is made. -/
theorem Record.make_eq_error {keypair : Keypair} {phrase : Option String} {password : String}
    {cost : Kdf.Cost} {createdAt : Instant} {tape : Tape} {e : WalletError}
    (h : (make keypair phrase password cost createdAt tape).1 = .error e) :
    ∃ reason, e = .sealing reason := by
  unfold make at h
  split at h
  · cases h
    exact ⟨_, rfl⟩
  · cases h

/-- No record fails to be made because the wallet is locked. -/
theorem Record.make_ne_locked (keypair : Keypair) (phrase : Option String) (password : String)
    (cost : Kdf.Cost) (createdAt : Instant) (tape : Tape) :
    (make keypair phrase password cost createdAt tape).1 ≠ .error .locked := by
  intro h
  obtain ⟨reason, hreason⟩ := make_eq_error h
  cases hreason

/-- No record fails to be sealed again because the wallet is locked. -/
theorem Record.reseal_ne_locked (record : Record) (old new : String) (cost : Kdf.Cost)
    (tape : Tape) : (record.reseal old new cost tape).1 ≠ .error .locked := by
  have hopen : record.openSecrets old ≠ .error .locked := by
    have hkeypair := Wallet.openKeypair_ne_locked record old
    have hphrase := Wallet.openPhrase_ne_locked record old
    unfold openSecrets
    split
    · rename_i e hopen
      exact fun h => hkeypair (hopen.trans (congrArg _ (Except.error.inj h)))
    split
    · exact fun h => by cases h
    · exact fun h => by cases h
    · rename_i e _ hopen
      exact fun h => hphrase (hopen.trans (congrArg _ (Except.error.inj h)))
  unfold reseal
  split
  · rename_i e he
    exact fun h => hopen (he.trans (congrArg _ (Except.error.inj h)))
  · exact make_ne_locked _ _ _ _ _ _

/-- The record that the slots keep. -/
def Store.Slots.record? (slots : Slots) : Option Record :=
  match slots.lookup? walletKey with
  | some (.text text) => (Keystore.decode text).toOption
  | _ => none

/-- The record in the slots is the one that is kept. -/
theorem Store.Slots.KeepsRecord.record?_eq {slots : Slots} {record : Record}
    (h : slots.KeepsRecord record) : slots.record? = some record := by
  obtain ⟨text, hslot, hdecode⟩ := h
  simp only [record?, hslot, hdecode]
  rfl

namespace Wallet

section
variable {settings : Settings} {new? : Option Record} {forgets : Bool} {world : World}

/-- Looking whether a password is empty is clean. -/
theorem clean_requireNonempty (password : String) :
    Clean new? forgets (requireNonempty password) world := by
  unfold requireNonempty
  split
  · exact .of_steady (.fail fun h => by cases h)
  · exact .pure ()

/-- The record of a wallet that is put in place now, if it can be sealed. -/
def newRecord? (settings : Settings) (world : World) (phrase : Phrase) (password : String) :
    Option Record :=
  (Record.make phrase.keypair (some phrase.text) password settings.cost world.now
    world.tape).1.toOption

/-- Once its record is made, a wallet is put in place by writes. -/
theorem commits_install {record : Record} (h : new? = some record) (length : Span)
    (privateKey : String) :
    Commits new? forgets (Session.finish >>= fun _ => Keystore.save record >>= fun _ =>
      Session.start length privateKey >>= fun _ => pure record) :=
  Commits.finish.bind fun _ => (Commits.saveRecord h).bind fun _ =>
    (Commits.start _ _).bind fun _ => .pure record

/-- Putting a wallet in place is clean. It may have written its own record. -/
theorem clean_install (phrase : Phrase) (password : String) :
    Clean (newRecord? settings world phrase password) forgets
      (install settings phrase.keypair phrase.text password) world := by
  refine Clean.bind (.pure _) fun createdAt between hnow => ?_
  cases hnow
  refine ⟨.refl world, Clean.bind (.onTape fun tape => ?_) fun record between hmake => ?_⟩
  · exact Record.make_ne_locked _ _ _ _ _ tape
  · rw [runIn_onTape] at hmake
    injection hmake with hmade hbetween
    subst hbetween
    have hnew : newRecord? settings world phrase password = some record := by
      rw [newRecord?, hmade]
      rfl
    exact ⟨.onTape world _, (commits_install hnew _ _).clean⟩

/-- The world once the entropy of a new phrase has been drawn. -/
def drawn (world : World) : World :=
  { world with tape := (world.tape.draw entropyLength).2 }

/-- The phrase of a wallet that is made now. -/
def nextPhrase (world : World) : Phrase := .ofEntropy (world.tape.draw entropyLength).1

/-- Making a wallet is clean. It may have written the record of the phrase that was drawn. -/
theorem clean_create (password : String) :
    Clean (newRecord? settings (drawn world) (nextPhrase world) password) forgets
      (create settings password) world := by
  unfold create
  simp only
  split
  · refine Clean.bind (.onTape fun tape h => by cases h) fun phrase between hphrase => ?_
    cases hphrase
    exact ⟨.onTape world _, (clean_install (nextPhrase world) password).bind_pure _⟩
  · exact .of_steady (.fail fun h => by cases h)

/-- Restoring a wallet is clean. It may have written the record of the phrase that was typed. -/
theorem clean_restore (typed password : String)
    (hnew : ∀ phrase, Phrase.parse typed = .ok phrase →
      new? = newRecord? settings world phrase password) :
    Clean new? forgets (restore settings typed password) world := by
  refine (clean_requireNonempty password).bind fun u between hnonempty => ?_
  have hbetween := requireNonempty_eq_ok hnonempty
  subst hbetween
  refine ⟨.refl _, ?_⟩
  cases hphrase : Phrase.parse typed with
  | error fault => exact .of_steady (.fail fun h => by cases h)
  | ok phrase =>
      rw [hnew phrase hphrase]
      exact (clean_install phrase password).bind_pure _

/-- Unlocking is clean. -/
theorem clean_unlock (password : String) :
    Clean new? forgets (unlock settings password) world := by
  refine Keystore.clean_require.bind fun record between hrequire => ?_
  obtain ⟨rfl, -⟩ := Keystore.require_eq_ok hrequire
  refine ⟨.read world, ?_⟩
  refine Clean.bind (.of_steady (.answer (openKeypair_ne_locked record password)))
    fun keypair between hopen => ?_
  rw [runIn_answer] at hopen
  injection hopen with _ hbetween
  subst hbetween
  refine ⟨.refl _, Clean.bind_pure _ ?_⟩
  exact (Commits.start _ _).clean

/-- Deleting is clean. It may have removed the record. -/
theorem clean_delete : Clean new? true delete world := by
  have hwallet : Commits new? true (Command.delete walletKey) :=
    Commits.write .delete walletKey fun fate => .forget fate rfl
  exact (Commits.finish.bind fun _ => hwallet).clean

/-- Changing the password is clean. It may have written the record that was sealed again. -/
theorem clean_changePassword (old new : String)
    (hnew : ∀ record, world.store.slots.KeepsRecord record →
      new? = (record.reseal old new settings.cost world.tape).1.toOption) :
    Clean new? forgets (changePassword settings old new) world := by
  refine (clean_requireNonempty new).bind fun u between hnonempty => ?_
  have hbetween := requireNonempty_eq_ok hnonempty
  subst hbetween
  refine ⟨.refl _, Keystore.clean_require.bind fun record between hrequire => ?_⟩
  obtain ⟨rfl, hkeeps⟩ := Keystore.require_eq_ok hrequire
  refine ⟨.read _, Clean.bind (.onTape fun tape => ?_) fun resealed between hreseal => ?_⟩
  · exact Record.reseal_ne_locked record old new settings.cost tape
  · rw [runIn_onTape] at hreseal
    injection hreseal with hresealed hbetween
    subst hbetween
    refine ⟨.onTape _ _, (Commits.saveRecord ?_).clean⟩
    rw [hnew record hkeeps]
    exact congrArg Except.toOption hresealed

/-- Asking for the key of the live session is clean, where its record is kept. -/
theorem clean_unlockedKeypair {record : Record}
    (hkeeps : world.store.slots.KeepsRecord record) :
    Clean new? forgets (unlockedKeypair record) world := by
  refine Session.clean_secret.bind fun secret between hsecret => ?_
  obtain ⟨session, rfl, hsession, -, rfl⟩ := Session.secret_eq_ok hsecret
  refine ⟨.read world, ?_⟩
  have hforeign (hother : ∀ keypair, Keypair.ofHex session.privateKey = .ok keypair →
      keypair.publicKey.toHex ≠ record.publicKey) :
      Clean new? forgets (Session.finish >>= fun _ => (fail .locked : Command Keypair))
        world.read := by
    have hstale : Stale world.read.store.slots world.read.now :=
      .foreign session record hsession hkeeps hother
    exact Session.clean_remove hstale
  cases hkey : Keypair.ofHex session.privateKey with
  | error e =>
      refine hforeign fun keypair hfound => ?_
      rw [hkey] at hfound
      cases hfound
  | ok keypair =>
      simp only
      split
      · exact .pure keypair
      · rename_i hother
        refine hforeign fun found hfound => ?_
        rw [hkey] at hfound
        cases hfound
        exact hother

/-- What is steady behind the check for the key is clean with it. -/
theorem clean_withKey {α : Type} {next : Record → Keypair → Command α}
    (h : ∀ record keypair, Steady (next record keypair)) :
    Clean new? forgets (withKey next) world := by
  refine Keystore.clean_require.bind fun record between hrequire => ?_
  obtain ⟨rfl, hkeeps⟩ := Keystore.require_eq_ok hrequire
  have hread : world.read.store.slots.KeepsRecord record := hkeeps
  refine ⟨.read world, (clean_unlockedKeypair hread).bind fun keypair between hkey => ?_⟩
  obtain ⟨rfl, -⟩ := unlockedKeypair_eq_ok hread hkey
  exact ⟨.read _, .of_steady (h record keypair)⟩

/-- Asking for the state is clean. -/
theorem clean_state : Clean new? forgets state world := by
  refine Keystore.clean_load.bind fun found between hload => ?_
  obtain ⟨rfl, -⟩ := Keystore.load_eq_ok hload
  refine ⟨.read world, ?_⟩
  have hfinish {shown : State} : Clean new? forgets
      (Session.finish >>= fun _ => (pure shown : Command State)) world.read.read :=
    (Commits.finish.bind fun _ => .pure shown).clean
  cases found with
  | none =>
      refine Session.clean_live_bind ?_ fun session _ _ => hfinish
      intro between e after hrun
      cases hrun
  | some record =>
      refine Session.clean_live_bind ?_ fun session _ _ => ?_
      · intro between e after hrun
        cases hrun
      · simp only
        split
        · split
          · exact .pure _
          · exact hfinish
        · exact hfinish

end

/-! ### Calls that fail -/

/-- The record that a call would store. -/
def Call.newRecord? (settings : Settings) (world : World) : Call → Option Record
  | .create password => Wallet.newRecord? settings (drawn world) (nextPhrase world) password
  | .restore typed password =>
    (Phrase.parse typed).toOption.bind fun phrase =>
      Wallet.newRecord? settings world phrase password
  | .changePassword old new =>
    world.store.slots.record?.bind fun record =>
      (record.reseal old new settings.cost world.tape).1.toOption
  | _ => none

/-- Whether a call is meant to remove the record. -/
def Call.forgets : Call → Bool
  | .delete => true
  | _ => false

/-- Every call that fails is excused. -/
theorem Call.clean (settings : Settings) (world : World) (call : Call) :
    Clean (call.newRecord? settings world) call.forgets (call.command settings) world := by
  by_cases hneeds : call.needsKey = true
  · obtain ⟨next, hcommand, hsteady⟩ := call.command_eq_withKey hneeds settings
    rw [hcommand]
    exact clean_withKey hsteady
  · cases call with
    | create password => exact (clean_create password).map _
    | restore typed password =>
        refine (clean_restore typed password fun phrase hphrase => ?_).map _
        simp only [Call.newRecord?, hphrase]
        rfl
    | unlock password => exact (clean_unlock password).map _
    | lock => exact Commits.finish.clean.map _
    | delete => exact clean_delete.map _
    | changePassword old new =>
        refine (clean_changePassword old new fun record hkeeps => ?_).map _
        simp only [Call.newRecord?, hkeeps.record?_eq]
        rfl
    | touch => exact (Session.clean_refresh settings.session).map _
    | isUnlocked => exact Session.clean_isUnlocked.map _
    | expiresAt => exact Session.clean_deadline.map _
    | state => exact clean_state.map _
    | tick => exact (Session.clean_isUnlocked.map _).map _
    | exportPhrase password => exact absurd rfl hneeds
    | exportKey password => exact absurd rfl hneeds
    | sign typed amount nonce => exact absurd rfl hneeds
    | prepare typed => exact absurd rfl hneeds
    | submission typed amount nonce => exact absurd rfl hneeds

/-! ### Transfers that fail -/

/-- The ledger does not touch the wallet's store. -/
structure Client.KeepsStore (client : Client Id) : Prop where
  fetch : ∀ address world, (client.fetch address world).2.store = world.store
  submit : ∀ submission world, (client.submit submission world).2.store = world.store

/-- The clock when the ledger has told the account, if it is asked for one. -/
def Client.lookedUp (client : Client Id) (typed : String) (world : World) : Instant :=
  match (prepare typed).runIn world with
  | (.ok record, world) => (client.fetch record.address world).2.now
  | (.error _, world) => world.now

/-- The second half of a transfer does no harm where it fails. -/
theorem settle_harmless {client : Client Id} (hclient : client.KeepsStore) {typed : String}
    {amount nonce : UInt64} {world after : World} {e : WalletError}
    (h : settle client typed amount nonce world = (.error e, after)) :
    Harmless world after [world.now] none false e := by
  unfold settle at h
  cases hsign : (signSubmission typed amount nonce).runIn world with
  | mk result signed =>
      rw [hsign] at h
      cases result with
      | error e' =>
          cases h
          have hclean := (Call.submission typed amount nonce).clean .standard world
          exact hclean.of_map.harmless hsign
      | ok given =>
          obtain ⟨transaction, submission⟩ := given
          have hfollows := signSubmission_follows hsign
          simp only at h
          cases hsubmit : client.submit submission signed with
          | mk result submitted =>
              have hstore := hclient.submit submission signed
              rw [hsubmit] at h hstore
              cases result with
              | error e' =>
                  cases h
                  refine .of_still (fun h => by cases h) ?_ ?_
                  · rw [hstore, hfollows.journal, List.append_nil]
                  · rw [hstore, hfollows.slots_nil]
              | ok response => cases h

/-- A transfer that failed has done no harm, if the ledger leaves the store alone. -/
theorem send_harmless {client : Client Id} (hclient : client.KeepsStore) {typed : String}
    {amount : UInt64} {world after : World} {e : WalletError}
    (h : send client typed amount world = (.error e, after)) :
    Harmless world after [world.now, client.lookedUp typed world] none false e := by
  rw [send_eq] at h
  unfold Client.lookedUp
  cases hprepare : (prepare typed).runIn world with
  | mk result prepared =>
      rw [hprepare] at h
      cases result with
      | error e' =>
          cases h
          have hclean : Clean none false (Answer.record <$> prepare typed) world :=
            (Call.prepare typed).clean .standard world
          refine (hclean.of_map.harmless hprepare).of_same rfl rfl ?_
          exact List.cons_subset_cons _ (List.nil_subset _)
      | ok record =>
          have hfollows := prepare_follows hprepare
          have hstore := hclient.fetch record.address prepared
          simp only at h ⊢
          cases hfetch : client.fetch record.address prepared with
          | mk result fetched =>
              rw [hfetch] at h hstore
              have hjournal : fetched.store.journal = world.store.journal := by
                rw [hstore, hfollows.journal, List.append_nil]
              have hslots : fetched.store.slots = world.store.slots := by
                rw [hstore, hfollows.slots_nil]
              cases result with
              | error e' =>
                  cases h
                  exact .of_still (fun h => by cases h) hjournal hslots
              | ok account =>
                  refine (settle_harmless hclient h).of_same hjournal hslots ?_
                  exact List.subset_cons_self _ _

/-- A call that fails has changed nothing. With an error that is neither the store's nor about a
locked wallet, it has not even tried to write. A wallet that is locked keeps its record, and a
session that is gone was good for nothing. Where the store itself has failed, the record is the
old one, or the call's own new one in full, or gone if the call was to remove it. All this holds
in every world, and for transfers with any ledger that leaves the store alone. -/
theorem failed_call_changes_nothing :
    (∀ (settings : Settings) (world after : World) (call : Call) (e : WalletError),
        call.outcome settings world = (.error e, after) →
          Harmless world after [world.now] (call.newRecord? settings world) call.forgets e)
      ∧ ∀ (client : Client Id), client.KeepsStore →
          ∀ (typed : String) (amount : UInt64) (world after : World) (e : WalletError),
            send client typed amount world = (.error e, after) →
              Harmless world after [world.now, client.lookedUp typed world] none false e :=
  ⟨fun settings world _ call _ h => (call.clean settings world).harmless h,
    fun _ hclient _ _ _ _ _ h => send_harmless hclient h⟩

/-- A ledger that does not answer. -/
def silentLedger : Client Id where
  fetch _ world := (.error (.unreachable "no answer"), world)
  submit _ world := (.error (.unreachable "no answer"), world)

/-- A ledger that does not answer leaves the store alone. -/
theorem silentLedger_keepsStore : silentLedger.KeepsStore := ⟨fun _ _ => rfl, fun _ _ => rfl⟩

/-- A wallet whose session is over says so and has removed it; one that cannot ask the ledger has
not even tried to write. -/
theorem failed_call_changes_nothing_expired :
    ∃ (world late after sent : World),
      late.store.slots = world.store.slots
        ∧ (Call.exportKey "Correct-Horse-42").outcome .standard late = (.error .locked, after)
        ∧ after.store.slots.lookup? walletKey = world.store.slots.lookup? walletKey
        ∧ after.store.slots.lookup? sessionKey = none
        ∧ send silentLedger "0x00112233445566778899aabbccddeeff00112233445566778899aabbccddeeff" 5
            world = (.error (.ledger (.unreachable "no answer")), sent)
        ∧ sent.store.journal = world.store.journal ∧ sent.store.slots = world.store.slots := by
  obtain ⟨payee, hpayee⟩ : ∃ payee, Address.parse
      "0x00112233445566778899aabbccddeeff00112233445566778899aabbccddeeff" = .ok payee :=
    ⟨_, rfl⟩
  obtain ⟨world, record, keypair, hreached, hsound, hnow, hunlocked, hover⟩ := exists_unlocked
  obtain ⟨hcalls, hsends⟩ := failed_call_changes_nothing
  -- The session is over at the last instant.
  let late := world.calm .last
  obtain ⟨after, hlocked, -⟩ : ∃ after, (exportKey "Correct-Horse-42").runIn late
      = (.error .locked, after) ∧ after.store.slots = late.store.slots.erase sessionKey :=
    withKey_of_locked (World.calm_sound world .last)
      (readable_of_consistent hreached.consistent) hunlocked.kept hover
  have hexport : (Call.exportKey "Correct-Horse-42").outcome .standard late
      = (.error .locked, after) :=
    Call.outcome_of_run .text rfl hlocked
  obtain ⟨-, hgone, -, -⟩ := hcalls .standard late after _ _ hexport
  obtain ⟨hwallet, hsession, -⟩ := hgone rfl
  -- While it is unlocked, the ledger is asked.
  rw [← hnow] at hunlocked
  have hsend : send silentLedger
      "0x00112233445566778899aabbccddeeff00112233445566778899aabbccddeeff" 5 world
        = (.error (.ledger (.unreachable "no answer")), world.read.read) := by
    rw [send_eq, prepare_of_unlocked hsound hunlocked hpayee]
    rfl
  obtain ⟨hrefused, -, -, -⟩ :=
    hsends silentLedger silentLedger_keepsStore _ 5 world _ _ hsend
  obtain ⟨hjournal, hslots⟩ := hrefused (fun h => by cases h) (fun s h => by cases h)
  exact ⟨world, late, after, world.read.read, rfl, hexport, hwallet, hsession, hsend, hjournal,
    hslots⟩

end Wallet

end Custody
