import Custody.World

/-!
# `Custody.Proofs.World`: commands step by step

A command is a chain of steps, and what it does is read off the chain one step at a time.

* The run equations (`Command.runIn_bind` and its companions) give the answer and the world
  after each kind of step. On a store that does not fail (`World.Sound`) reading and writing
  have equations of their own, in terms of `World.read` and `World.wrote`.
* `Command.runIn_bind_eq_ok` takes a chain apart that has succeeded, on any store, and
  `Command.runIn_bind_eq_error` one that has failed.
* `World.Follows` says which writes lead from one world to a later one, in their order. A
  crash leaves the slots of a prefix of them.
-/

set_option autoImplicit false

namespace Custody

open Time

/-! ### Slots -/

namespace Store.Slots

variable {slots : Slots} {key other : String} {slot : Slot}

/-- The first entry is looked at first. -/
theorem lookup?_cons (entry : String × Slot) :
    lookup? (entry :: slots) key = if entry.1 = key then some entry.2 else lookup? slots key := by
  by_cases h : entry.1 = key <;> simp [lookup?, h]

/-- What was erased is not found. -/
@[simp] theorem lookup?_erase_self : lookup? (slots.erase key) key = none := by
  induction slots with
  | nil => rfl
  | cons entry slots ih =>
      by_cases h : entry.1 = key
      · simpa [erase, h] using ih
      · simp only [erase, ne_eq, h, not_false_eq_true, decide_true, List.filter_cons_of_pos]
        rw [lookup?_cons, if_neg h]
        exact ih

/-- Erasing a key leaves what is under another one. -/
@[simp] theorem lookup?_erase_ne (h : key ≠ other) :
    lookup? (slots.erase other) key = lookup? slots key := by
  induction slots with
  | nil => rfl
  | cons entry slots ih =>
      by_cases hentry : entry.1 = other
      · -- The entry goes, and it was not the one that is looked up.
        have hne : entry.1 ≠ key := fun heq => h (heq ▸ hentry)
        rw [lookup?_cons, if_neg hne, ← ih]
        simp [erase, hentry]
      · simp only [erase, ne_eq, hentry, not_false_eq_true, decide_true, List.filter_cons_of_pos]
        rw [lookup?_cons, lookup?_cons]
        congr 1

/-- An entry at the end is found where none before it has the key. -/
theorem lookup?_append_singleton :
    lookup? (slots ++ [(other, slot)]) key
      = (lookup? slots key).or (if other = key then some slot else none) := by
  induction slots with
  | nil => rw [List.nil_append, lookup?_cons]; rfl
  | cons entry slots ih =>
      rw [List.cons_append, lookup?_cons, lookup?_cons, ih]
      split <;> rfl

/-- What was inserted is found. -/
@[simp] theorem lookup?_insert_self : lookup? (slots.insert key slot) key = some slot := by
  rw [insert, lookup?_append_singleton, lookup?_erase_self, if_pos rfl]
  rfl

/-- Inserting under a key leaves what is under another one. -/
@[simp] theorem lookup?_insert_ne (h : key ≠ other) :
    lookup? (slots.insert other slot) key = lookup? slots key := by
  rw [insert, lookup?_append_singleton, lookup?_erase_ne h, if_neg (Ne.symm h), Option.or_none]

/-- Erasing what is not there changes nothing. -/
theorem erase_of_lookup?_eq_none (h : lookup? slots key = none) : slots.erase key = slots := by
  induction slots with
  | nil => rfl
  | cons entry slots ih =>
      rw [lookup?_cons] at h
      split at h
      · cases h
      · rename_i hne
        simp only [erase, ne_eq, hne, not_false_eq_true, decide_true, List.filter_cons_of_pos]
        congr 1
        exact ih h

/-- No writes change nothing. -/
@[simp] theorem replay_nil : slots.replay [] = slots := rfl

/-- Writes are replayed one after the other. -/
theorem replay_append (first second : List Write) :
    slots.replay (first ++ second) = (slots.replay first).replay second := by
  rw [replay, List.foldl_append]
  rfl

end Store.Slots

namespace Store.Write

/-- The key that a write is about. -/
def key : Store.Write → String
  | .set key _ _ => key
  | .delete key _ => key

/-- A write leaves what is under other keys. -/
theorem lookup?_apply_ne (slots : Slots) (write : Store.Write) {other : String}
    (h : other ≠ write.key) : (slots.apply write).lookup? other = slots.lookup? other := by
  cases write with
  | set k value fate => cases fate <;> simp_all [Slots.apply, key]
  | delete k fate => cases fate <;> simp_all [Slots.apply, key]

end Store.Write

/-- The record and the session have different keys. -/
theorem Store.walletKey_ne_sessionKey : Store.walletKey ≠ Store.sessionKey := by decide

/-- The session and the record have different keys. -/
theorem Store.sessionKey_ne_walletKey : Store.sessionKey ≠ Store.walletKey := by decide

/-! ### Worlds -/

namespace World

/-- No call of the store fails. -/
def Sound (world : World) : Prop := ∀ n call key, world.store.fate n call key = .done

/-- The world after one call that reads the store. -/
def read (world : World) : World :=
  { world with store := { world.store with calls := world.store.calls + 1 } }

/-- The world after one call that writes to the store. -/
def wrote (world : World) (write : Store.Write) : World :=
  { world with store := { world.store with
      slots := world.store.slots.apply write
      journal := world.store.journal ++ [write]
      calls := world.store.calls + 1 } }

/-- The world at another reading of the clock, with a store that does not fail. -/
def calm (world : World) (now : Instant) : World := { world with now, store := world.store.heal }

variable (world : World) (now : Instant)

/-- A read leaves the slots. -/
@[simp] theorem read_slots : world.read.store.slots = world.store.slots := rfl

/-- A read is not noted in the journal. -/
@[simp] theorem read_journal : world.read.store.journal = world.store.journal := rfl

/-- A read takes no time. -/
@[simp] theorem read_now : world.read.now = world.now := rfl

/-- A world that was calmed has the same slots. -/
@[simp] theorem calm_slots : (world.calm now).store.slots = world.store.slots := rfl

/-- The store of a world that was calmed does not fail. -/
theorem calm_sound : (world.calm now).Sound := fun _ _ _ => rfl

variable {world}

/-- A read does not make a store fail. -/
theorem Sound.read (h : world.Sound) : world.read.Sound := h

/-- A write does not make a store fail. -/
theorem Sound.wrote (h : world.Sound) (write : Store.Write) : (world.wrote write).Sound := h

/-- From one world to a later one: these writes, in this order, and nothing else in the store;
neither the clock nor the fate of later calls has changed. -/
structure Follows (before after : World) (writes : List Store.Write) : Prop where
  journal : after.store.journal = before.store.journal ++ writes
  slots : after.store.slots = before.store.slots.replay writes
  fate : after.store.fate = before.store.fate
  now : after.now = before.now

namespace Follows

/-- Where nothing has happened, nothing was written. -/
theorem refl (world : World) : world.Follows world [] :=
  ⟨by simp, rfl, rfl, rfl⟩

/-- Nothing is written by a read. -/
theorem read (world : World) : world.Follows world.read [] :=
  ⟨by simp, rfl, rfl, rfl⟩

/-- One write is written by a write. -/
theorem wrote (world : World) (write : Store.Write) : world.Follows (world.wrote write) [write] :=
  ⟨rfl, rfl, rfl, rfl⟩

/-- Nothing is written by a draw from the tape. -/
theorem onTape (world : World) (tape : Tape) : world.Follows { world with tape } [] :=
  ⟨by simp, rfl, rfl, rfl⟩

/-- Where nothing was written, the slots are the same. -/
theorem slots_nil {before after : World} (h : before.Follows after []) :
    after.store.slots = before.store.slots := h.slots

/-- What was written first comes first. -/
theorem trans {first second third : World} {writes more : List Store.Write}
    (h : first.Follows second writes) (h' : second.Follows third more) :
    first.Follows third (writes ++ more) := by
  refine ⟨?_, ?_, h'.fate.trans h.fate, h'.now.trans h.now⟩
  · rw [h'.journal, h.journal, List.append_assoc]
  · rw [h'.slots, h.slots, Store.Slots.replay_append]

end Follows

end World

/-! ### Run equations -/

namespace Command

variable {α β : Type} (world : World)

/-- A value alone is answered, and nothing happens. -/
@[simp] theorem runIn_pure (a : α) : (pure a : Command α).runIn world = (.ok a, world) := rfl

/-- A command goes on from the world that the one before it has left, unless that one has failed.
-/
theorem runIn_bind (command : Command α) (next : α → Command β) :
    (command >>= next).runIn world
      = match command.runIn world with
        | (.ok a, world) => (next a).runIn world
        | (.error e, world) => (.error e, world) := by
  show (let (result, world) := command world
    (ExceptT.bindCont next result : StateM World (Except WalletError β)) world) = _
  unfold runIn
  -- The chain is a match on the answer, which the definitions hide under transformers.
  rcases command world with ⟨result, world⟩
  cases result <;> rfl

/-- A result alone is answered, and nothing happens. -/
@[simp] theorem runIn_answer (result : Except WalletError α) :
    (answer result).runIn world = (result, world) := rfl

/-- A failure alone is answered, and nothing happens. -/
@[simp] theorem runIn_fail (e : WalletError) :
    (fail e : Command α).runIn world = (.error e, world) := rfl

/-- The time is what the clock says. -/
@[simp] theorem runIn_now : now.runIn world = (.ok world.now, world) := rfl

/-- A draw leaves the rest of the tape. -/
theorem runIn_onTape (draw : Tape → Except WalletError α × Tape) :
    (onTape draw).runIn world
      = ((draw world.tape).1, { world with tape := (draw world.tape).2 }) := rfl

/-- An attempt never fails, and leaves the world that its command has left. -/
theorem runIn_attempt (command : Command α) :
    (attempt command).runIn world
      = match command.runIn world with
        | (.ok a, world) => (.ok (some a), world)
        | (.error _, world) => (.ok none, world) := rfl

variable {world}

/-- A chain that has succeeded: every step of it has. -/
theorem runIn_bind_eq_ok {command : Command α} {next : α → Command β} {b : β} {after : World} :
    (command >>= next).runIn world = (.ok b, after)
      ↔ ∃ a between, command.runIn world = (.ok a, between)
          ∧ (next a).runIn between = (.ok b, after) := by
  rw [runIn_bind]
  rcases command.runIn world with ⟨result, between⟩
  constructor
  · intro h
    cases result with
    | error e => cases h
    | ok a => exact ⟨a, between, rfl, h⟩
  · rintro ⟨a, between', heq, h⟩
    cases heq
    exact h

/-- A chain that has failed: one of its steps has, after those before it succeeded. -/
theorem runIn_bind_eq_error {command : Command α} {next : α → Command β} {e : WalletError}
    {after : World} :
    (command >>= next).runIn world = (.error e, after)
      ↔ command.runIn world = (.error e, after)
        ∨ ∃ a between, command.runIn world = (.ok a, between)
            ∧ (next a).runIn between = (.error e, after) := by
  rw [runIn_bind]
  rcases command.runIn world with ⟨result, between⟩
  constructor
  · intro h
    cases result with
    | error e =>
        cases h
        exact .inl rfl
    | ok a => exact .inr ⟨a, between, rfl, h⟩
  · rintro (heq | ⟨a, between', heq, h⟩)
    · cases heq
      rfl
    · cases heq
      exact h

/-- A step whose answer is only put in another form. -/
theorem runIn_map {α β : Type} (f : α → β) (command : Command α) (world : World) :
    (f <$> command).runIn world
      = ((command.runIn world).1.map f, (command.runIn world).2) := by
  show (f <$> command : ExceptT WalletError (StateM World) β).run world = _
  rw [ExceptT.run_map]
  rfl

/-- A mapped answer is that of an answer. -/
theorem runIn_map_eq_ok {α β : Type} {f : α → β} {command : Command α}
    {world after : World} {b : β} (h : (f <$> command).runIn world = (.ok b, after)) :
    ∃ a, command.runIn world = (.ok a, after) ∧ b = f a := by
  rw [runIn_map] at h
  cases hrun : command.runIn world with
  | mk result world' =>
      rw [hrun] at h
      cases result with
      | error e => cases h
      | ok a =>
          cases h
          exact ⟨a, rfl, rfl⟩

/-- Without its answer, a command does the same. -/
theorem runIn_discard {α : Type} (command : Command α) (world : World) :
    (discard command).runIn world
      = ((command.runIn world).1.map fun _ => (), (command.runIn world).2) :=
  runIn_map (fun _ => ()) command world

/-! ### The store -/

/-- Reading from a store that does not fail. -/
theorem runIn_get (h : world.Sound) (key : String) :
    (get key).runIn world
      = (match world.store.slots.lookup? key with
          | none => .ok none
          | some (.text s) => .ok (some s)
          | some .blob => .error (.storage ⟨key⟩), world.read) := by
  -- A sound store knows no other fate, so what is left is what the slot holds.
  have hfate : world.store.nextFate .get key = .done := h _ _ _
  unfold get onStore ofFun runIn Store.get
  simp only [hfate]
  cases world.store.slots.lookup? key with
  | none => rfl
  | some slot => cases slot <;> rfl

/-- Reading changes nothing, and a text that is read is there. -/
theorem runIn_get_eq_ok {key : String} {found : Option String} {after : World}
    (h : (get key).runIn world = (.ok found, after)) :
    after = world.read ∧ world.store.slots.lookup? key = found.map .text := by
  unfold get onStore ofFun runIn Store.get at h
  cases hfate : world.store.nextFate .get key with
  | done =>
      simp only [hfate] at h
      cases hslot : world.store.slots.lookup? key with
      | none =>
          rw [hslot] at h
          cases h
          exact ⟨rfl, rfl⟩
      | some slot =>
          rw [hslot] at h
          cases slot with
          | text s =>
              cases h
              exact ⟨rfl, rfl⟩
          | blob => cases h
  | refused =>
      simp only [hfate] at h
      cases h
  | lost =>
      simp only [hfate] at h
      cases h

/-- Reading changes nothing, also where it fails. -/
theorem snd_runIn_get (key : String) : ((get key).runIn world).2 = world.read := by
  unfold get onStore ofFun runIn Store.get
  cases hfate : world.store.nextFate .get key with
  | done =>
      simp only [hfate]
      cases world.store.slots.lookup? key with
      | none => rfl
      | some slot => cases slot <;> rfl
  | refused =>
      simp only [hfate]
      rfl
  | lost =>
      simp only [hfate]
      rfl

/-- Writing is noted, and succeeds where its fate is to be done. -/
theorem runIn_onStore_write (call : Store.Call) (key : String)
    (note : Store.Fate → Store.Write) :
    (onStore (·.write call key note)).runIn world
      = (if world.store.nextFate call key = .done then .ok () else .error (.storage ⟨key⟩),
          world.wrote (note (world.store.nextFate call key))) := by
  unfold onStore ofFun runIn Store.write
  cases hfate : world.store.nextFate call key with
  | done =>
      simp only [hfate]
      rfl
  | refused =>
      simp only [hfate]
      rfl
  | lost =>
      simp only [hfate]
      rfl

/-- A write is tried, and fails as the store says. -/
theorem runIn_set (key value : String) :
    (set key value).runIn world
      = (if world.store.nextFate .set key = .done then .ok () else .error (.storage ⟨key⟩),
          world.wrote (.set key value (world.store.nextFate .set key))) :=
  runIn_onStore_write .set key _

/-- A removal is tried, and fails as the store says. -/
theorem runIn_delete (key : String) :
    (delete key).runIn world
      = (if world.store.nextFate .delete key = .done then .ok () else .error (.storage ⟨key⟩),
          world.wrote (.delete key (world.store.nextFate .delete key))) :=
  runIn_onStore_write .delete key _

/-- Writing to a store that does not fail. -/
theorem runIn_set_sound (h : world.Sound) (key value : String) :
    (set key value).runIn world = (.ok (), world.wrote (.set key value .done)) := by
  have hfate : world.store.nextFate .set key = .done := h _ _ _
  rw [runIn_set, hfate, if_pos rfl]

/-- In a store that does not fail, a removal succeeds. -/
theorem runIn_delete_sound (h : world.Sound) (key : String) :
    (delete key).runIn world = (.ok (), world.wrote (.delete key .done)) := by
  have hfate : world.store.nextFate .delete key = .done := h _ _ _
  rw [runIn_delete, hfate, if_pos rfl]

/-- A write that has succeeded was done. -/
theorem runIn_set_eq_ok {key value : String} {u : Unit} {after : World}
    (h : (set key value).runIn world = (.ok u, after)) :
    after = world.wrote (.set key value .done) := by
  rw [runIn_set] at h
  split at h
  · rename_i hfate
    rw [hfate] at h
    cases h
    rfl
  · cases h

/-- A removal that succeeded is done. -/
theorem runIn_delete_eq_ok {key : String} {u : Unit} {after : World}
    (h : (delete key).runIn world = (.ok u, after)) :
    after = world.wrote (.delete key .done) := by
  rw [runIn_delete] at h
  split at h
  · rename_i hfate
    rw [hfate] at h
    cases h
    rfl
  · cases h

end Command

end Custody
