import Custody.Proofs.Time.Instant
import Custody.Proofs.Wallet.Look

/-!
# `Custody.Proofs.Wallet.Window`: how long a session is live

A session is started at one reading of the clock and looked at at others, and in between it is
nothing but a text. `session_is_live_for_its_window` says what the text keeps: whatever the clock
reads and the key spells, it gives back the key and the instant that was answered, as that is read
(`Instant.asRead`), and at any other reading the session is found live just if the instant that
was read has not come.

What is read is what was answered, except where that is a leap second away from the end of a
minute. `session_lasts_beyond_its_window` is such a case.

The instant itself is the reading and the configured length of time after it
(`Session.expiry_isAfter`), but for two bounds: no session lasts longer than 36500 days, and
where the calendar does not reach so far, the session lasts until its last instant.
-/

set_option autoImplicit false

namespace Custody

open Time Command
open Store (sessionKey)

namespace Session

/-- When a session expires: a length of time after its start, or at the last instant if the
calendar ends before. -/
theorem expiry_isAfter (length : Span) (now : Instant) :
    now.IsAfter (bounded length).nanos (expiry length now)
      ∨ (∀ later, ¬ now.IsAfter (bounded length).nanos later)
        ∧ expiry length now = Instant.last := by
  unfold expiry
  cases hsum : now.add? (bounded length).nanos with
  | none => exact .inr ⟨Instant.add?_eq_none_iff.mp hsum, rfl⟩
  | some later => exact .inl (Instant.add?_eq_some_iff.mp hsum)

/-- The slots after a look at a kept session: it stays while it is live. -/
theorem isUnlocked_of_keeps {world : World} (hsound : world.Sound) {session : Session}
    (hkeeps : world.store.slots.KeepsSession session) :
    ∃ after, isUnlocked.runIn world = (.ok (session.isLiveAt world.now), after)
      ∧ after.store.slots
        = if session.isLiveAt world.now then world.store.slots
          else world.store.slots.erase sessionKey := by
  cases hlive : session.isLiveAt world.now with
  | true =>
      have hlook := live_of_keeps hsound hkeeps hlive
      exact ⟨world.read, Wallet.isUnlocked_of_live hlook, rfl⟩
  | false =>
      have hlook := live_of_expired hsound hkeeps hlive
      exact ⟨removed world, Wallet.isUnlocked_of_live hlook, rfl⟩

/-- A session that is started is kept as it reads. -/
theorem start_keeps (world : World) (now : Instant) (length : Span) (key : String) :
    ∃ after : World,
      (start length key).runIn (world.calm now) = (.ok (expiry length now), after)
        ∧ after.store.slots.lookup? sessionKey
          = some (.text (text ⟨key, keptUntil length now⟩)) := by
  obtain ⟨after, hstart⟩ := start_of_sound (World.calm_sound world now) length key
  obtain ⟨-, hslots⟩ := start_eq_ok hstart
  refine ⟨after, hstart, ?_⟩
  rw [hslots]
  exact Store.Slots.lookup?_insert_self

end Session

/-- A session starts at any reading of the clock, for any length of time and any key. What is
answered is the instant that is the length of time after the reading, within its bounds. The text
that is stored reads as just this key with that instant, as its own text reads. At any reading the
wallet is then unlocked if the instant that was read is still to come, and the text stays as it
is; else the text is removed. -/
theorem session_is_live_for_its_window (world : World) (now : Instant) (length : Span)
    (key : String) :
    ∃ (expiresAt : Instant) (after : World) (text : String),
      (Session.start length key).runIn (world.calm now) = (.ok expiresAt, after)
        ∧ (now.IsAfter (min length.nanos (36500 * 86400 * 1000000000)) expiresAt
          ∨ (∀ later, ¬ now.IsAfter (min length.nanos (36500 * 86400 * 1000000000)) later)
            ∧ expiresAt = Instant.last)
        ∧ after.store.slots.lookup? sessionKey = some (.text text)
        ∧ Session.ofText? text = some ⟨key, expiresAt.asRead⟩
        ∧ ∀ t : Instant, ∃ later : World,
          Session.isUnlocked.runIn (after.calm t) = (.ok (t.before expiresAt.asRead), later)
            ∧ later.store.slots.lookup? sessionKey
              = if t.before expiresAt.asRead then some (.text text) else none := by
  obtain ⟨after, hstart, hslot⟩ := Session.start_keeps world now length key
  let session : Session := ⟨key, Session.keptUntil length now⟩
  have hread : Session.ofText? session.text = some session := Session.ofText?_kept key length now
  refine ⟨Session.expiry length now, after, session.text, hstart,
    Session.expiry_isAfter length now, hslot, hread, fun t => ?_⟩
  have hkeeps : (after.calm t).store.slots.KeepsSession session := ⟨session.text, hslot, hread⟩
  obtain ⟨later, hlook, hlater⟩ := Session.isUnlocked_of_keeps (World.calm_sound after t) hkeeps
  refine ⟨later, hlook, ?_⟩
  rw [hlater]
  show (if t.before (Session.expiry length now).asRead then _ else _ : Store.Slots).lookup?
    sessionKey = _
  split
  · exact hslot
  · exact Store.Slots.lookup?_erase_self

/-- A session of no length, started inside a leap second that does not end a minute. The instant
that is answered is the reading, at which no session of that expiry is live. The text reads as an
instant of the next second, and at that same reading the wallet is found unlocked. -/
theorem session_lasts_beyond_its_window :
    ∃ (now kept : Instant) (started looked : World) (text : String),
      now.seconds = 4 ∧ now.nanos = 1333333333
        ∧ kept.seconds = 5 ∧ kept.nanos = 333333333
        ∧ (Session.start (.ofSeconds 0) "aa").runIn
            ((⟨Store.empty, now, .ofBytes []⟩ : World).calm now) = (.ok now, started)
        ∧ started.store.slots.lookup? sessionKey = some (.text text)
        ∧ Session.ofText? text = some ⟨"aa", kept⟩ ∧ kept ≠ now
        ∧ now.before now = false
        ∧ Session.isUnlocked.runIn (started.calm now) = (.ok true, looked) := by
  let now : Instant := ⟨4, 1333333333, by decide, by decide, by decide⟩
  let kept : Instant := ⟨5, 333333333, by decide, by decide, by decide⟩
  have hexpiry : Session.expiry (.ofSeconds 0) now = now := by decide +kernel
  have hkept : Session.keptUntil (.ofSeconds 0) now = kept := by decide +kernel
  obtain ⟨started, hstart, hslot⟩ :=
    Session.start_keeps ⟨Store.empty, now, .ofBytes []⟩ now (.ofSeconds 0) "aa"
  have hread := Session.ofText?_kept "aa" (.ofSeconds 0) now
  rw [hexpiry] at hstart
  rw [hkept] at hslot hread
  have hkeeps : (started.calm now).store.slots.KeepsSession ⟨"aa", kept⟩ := ⟨_, hslot, hread⟩
  obtain ⟨looked, hlook, -⟩ :=
    Session.isUnlocked_of_keeps (World.calm_sound started now) hkeeps
  exact ⟨now, kept, started, looked, _, rfl, rfl, rfl, rfl, hstart, hslot, hread, by decide,
    by decide, hlook⟩

end Custody
