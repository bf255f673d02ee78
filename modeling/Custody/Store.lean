import Custody.Error

/-!
# `Custody.Store`: the key-value store

The store maps keys to texts. It may hold bytes that are no text, which only show when they are
read. Any call may fail, and a write that reports failure may still have taken effect; what
becomes of each call is the store's `fate`, which nothing here decides.

Every write is noted in the `journal`, in order. The slots are what the journal makes of the
slots there were at the start (`Store.Slots.replay`), so a crash after some write is a prefix
of the journal.
-/

set_option autoImplicit false

namespace Custody

namespace Store

/-- The key under which the wallet's record is kept. -/
def walletKey : String := "keel.wallet"

/-- The key under which the session is kept. -/
def sessionKey : String := "keel.session"

/-- What a key holds. -/
inductive Slot where
  | text (s : String)
  /-- Bytes that are not text. -/
  | blob
  deriving DecidableEq, Repr

/-- The kinds of calls. -/
inductive Call where
  | get
  | set
  | delete
  deriving DecidableEq, Repr

/-- What becomes of a call. -/
inductive Fate where
  | done
  /-- It fails before it reaches the store. -/
  | refused
  /-- It takes effect and reports failure. -/
  | lost
  deriving DecidableEq, Repr

/-- A write and what became of it. -/
inductive Write where
  | set (key value : String) (fate : Fate)
  | delete (key : String) (fate : Fate)
  deriving DecidableEq, Repr

/-- Keys and what they hold, in the order in which they first came. -/
abbrev Slots := List (String × Slot)

namespace Slots

/-- What is under a key. -/
def lookup? (slots : Slots) (key : String) : Option Slot :=
  (slots.find? fun (k, _) => k = key).map Prod.snd

/-- The slots with nothing under a key. -/
def erase (slots : Slots) (key : String) : Slots := slots.filter fun (k, _) => k ≠ key

/-- The slots with this under a key. -/
def insert (slots : Slots) (key : String) (slot : Slot) : Slots :=
  erase slots key ++ [(key, slot)]

/-- The slots after a write. -/
def apply (slots : Slots) : Write → Slots
  | .set _ _ .refused => slots
  -- A lost write is one that took effect.
  | .set key value _ => slots.insert key (.text value)
  | .delete _ .refused => slots
  | .delete key _ => slots.erase key

/-- The slots after some writes. -/
def replay (slots : Slots) (writes : List Write) : Slots := writes.foldl apply slots

end Slots

end Store

/-- The store. -/
structure Store where
  slots : Store.Slots
  journal : List Store.Write
  /-- How many calls there have been. -/
  calls : Nat
  /-- What becomes of a call, by its number, its kind and its key. -/
  fate : Nat → Store.Call → String → Store.Fate

namespace Store

/-- A store that holds nothing and never fails. -/
def empty : Store := ⟨[], [], 0, fun _ _ _ => .done⟩

/-- What the next call will meet. -/
def nextFate (store : Store) (call : Call) (key : String) : Fate :=
  store.fate store.calls call key

/-- The text under a key, if there is one. -/
def get (store : Store) (key : String) : Except StorageError (Option String) × Store :=
  -- A read is counted, too: fates go by the number of the call.
  let after := { store with calls := store.calls + 1 }
  match store.nextFate .get key with
  | .done =>
    match store.slots.lookup? key with
    | none => (.ok none, after)
    | some (.text s) => (.ok (some s), after)
    | some .blob => (.error ⟨key⟩, after)
  | _ => (.error ⟨key⟩, after)

/-- Notes a write and does what its fate says. -/
def write (store : Store) (call : Call) (key : String) (note : Fate → Write) :
    Except StorageError Unit × Store :=
  let fate := store.nextFate call key
  let after := { store with
    slots := store.slots.apply (note fate)
    journal := store.journal ++ [note fate]
    calls := store.calls + 1 }
  match fate with
  | .done => (.ok (), after)
  | _ => (.error ⟨key⟩, after)

/-- Puts a text under a key. -/
def set (store : Store) (key value : String) : Except StorageError Unit × Store :=
  store.write .set key (.set key value)

/-- Removes a key, whether it is there or not. -/
def delete (store : Store) (key : String) : Except StorageError Unit × Store :=
  store.write .delete key (.delete key)

/-- Puts bytes under a key past the journal, as someone else would. -/
def plant (store : Store) (key : String) (bytes : Bytes) : Store :=
  let slot := match Bytes.toText? bytes with
    | some s => .text s
    | none => .blob
  { store with slots := store.slots.insert key slot }

/-- From now on a kind of call fails for a key before it reaches the store. -/
def breakCall (store : Store) (call : Call) (key : String) : Store :=
  { store with
    fate := fun n c k => if c = call ∧ k = key then .refused else store.fate n c k }

/-- From now on no call fails. -/
def heal (store : Store) : Store := { store with fate := fun _ _ _ => .done }

/-- The number of keys. -/
def size (store : Store) : Nat := store.slots.length

end Store

end Custody
