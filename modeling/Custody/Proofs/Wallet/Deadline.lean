import Custody.Proofs.Wallet.Look

/-!
# `Custody.Proofs.Wallet.Deadline`: when the wallet is unlocked

Nothing keeps time while nobody calls, and a session that has expired is only removed when it is
looked at. What a call finds is still a function of the calls before it, with the readings of
the clock that they saw. `Open ends past now` says it in these terms: a session was started and
not ended since, and every call that looked at it, the present one included, came before the
deadline that held then. A session that starts at `t` ends at `ends t`. Putting off moves the
deadline, to a later or to an earlier instant.

`unlocked_iff_open` is the result. A session ends where the text of its expiry reads
(`Session.keptUntil`). But for leap seconds away from the end of a minute, that is the expiry
itself (`open_keptUntil_iff`); `unlocked_beyond_expiry` is a run where it is not. The way there is
`window`, the deadline that is kept in the store, as a fold over the events: `Tracks` ties it to
the slots, and `window_eq_some_iff` to the history.
-/

set_option autoImplicit false

namespace Custody.Wallet

open Time Command
open Store (Slots walletKey sessionKey)

/-! ### The history of a session -/

/-- The deadline after some events that neither start nor end a session. `ends` tells the deadline
from the reading of the clock at which a session is started or put off. -/
def deadlineAfter (ends : Instant → Instant) (deadline : Instant) (since : List Event) : Instant :=
  since.foldl
    (fun deadline event => if event.renews then ends event.now else deadline)
    deadline

/-- A session with this deadline has gone on through these events: none of them started or ended
one, and each that looked at it came before the deadline that held then. -/
structure Unbroken (ends : Instant → Instant) (deadline : Instant) (since : List Event) : Prop where
  quiet : ∀ event ∈ since, event.starts = false ∧ event.stops = false
  inTime : ∀ done event rest, since = done ++ event :: rest → event.consults = true →
    event.now.before (deadlineAfter ends deadline done) = true

/-- At this reading of the clock, the last session that was started goes on. -/
def Open (ends : Instant → Instant) (past : List Event) (now : Instant) : Prop :=
  ∃ earlier start since, past = earlier ++ start :: since ∧ start.starts = true
    ∧ Unbroken ends (ends start.now) since
    ∧ now.before (deadlineAfter ends (ends start.now) since) = true

/-! ### The deadline that is kept -/

/-- The deadline that is kept after one more event, if a session is. -/
def nextWindow (ends : Instant → Instant) (window : Option Instant) (event : Event) :
    Option Instant :=
  if event.starts then some (ends event.now)
  else if event.stops then none
  else if event.consults then
    match window with
    | none => none
    | some deadline =>
      if event.now.before deadline then
        some (if event.renews then ends event.now else deadline)
      else none
  else window

/-- The deadline that is kept after these events. -/
def window (ends : Instant → Instant) (past : List Event) : Option Instant :=
  past.foldl (nextWindow ends) none

variable {ends : Instant → Instant} {deadline : Instant} {since : List Event}

namespace Unbroken

/-- A session that was just started has gone on. -/
theorem nil : Unbroken ends deadline [] :=
  ⟨fun _ h => absurd h List.not_mem_nil, fun _ _ _ h => by simp at h⟩

/-- The first event may be told by itself. -/
theorem cons_iff {event : Event} :
    Unbroken ends deadline (event :: since)
      ↔ event.starts = false ∧ event.stops = false
        ∧ (event.consults = true → event.now.before deadline = true)
        ∧ Unbroken ends
            (if event.renews then ends event.now else deadline)
            since := by
  constructor
  · intro h
    obtain ⟨hstarts, hstops⟩ := h.quiet event List.mem_cons_self
    refine ⟨hstarts, hstops, h.inTime [] event since rfl, ?_, ?_⟩
    · exact fun other hother => h.quiet other (List.mem_cons_of_mem _ hother)
    · intro done other rest heq hconsults
      rw [heq] at h
      exact h.inTime (event :: done) other rest rfl hconsults
  · rintro ⟨hstarts, hstops, hfirst, hrest⟩
    constructor
    · intro other hother
      cases List.mem_cons.mp hother with
      | inl heq =>
          rw [heq]
          exact ⟨hstarts, hstops⟩
      | inr hmem => exact hrest.quiet other hmem
    · intro done other rest heq hconsults
      cases done with
      | nil =>
          cases heq
          exact hfirst hconsults
      | cons first done =>
          cases heq
          exact hrest.inTime done other rest rfl hconsults

end Unbroken

/-! ### One event -/

section
variable {event : Event} {kept next : Instant}

/-- What a quiet event that came in time makes of the deadline. -/
theorem nextWindow_of_quiet (hstarts : event.starts = false) (hstops : event.stops = false)
    (htime : event.consults = true → event.now.before kept = true) :
    nextWindow ends (some kept) event
      = some (if event.renews then ends event.now else kept) := by
  rw [nextWindow, hstarts, hstops]
  -- An event that looked came in time; one that did not look cannot have put the end off.
  cases hconsults : event.consults with
  | true => simp [htime hconsults]
  | false => simp [Event.renews_of_not_consults hconsults]

/-- A deadline that is kept after an event is that of a session that the event started, or the
event was quiet and came in time. -/
theorem of_nextWindow_eq_some {before : Option Instant}
    (h : nextWindow ends before event = some next) :
    (event.starts = true ∧ next = ends event.now)
      ∨ ∃ kept, before = some kept ∧ event.starts = false ∧ event.stops = false
        ∧ (event.consults = true → event.now.before kept = true)
        ∧ next = if event.renews then ends event.now else kept := by
  unfold nextWindow at h
  cases hstarts : event.starts with
  | true =>
      rw [hstarts, if_pos rfl] at h
      exact .inl ⟨rfl, (Option.some.inj h).symm⟩
  | false =>
      cases hstops : event.stops with
      | true =>
          rw [hstarts, hstops] at h
          cases h
      | false =>
          rw [hstarts, hstops] at h
          cases hconsults : event.consults with
          | false =>
              rw [hconsults] at h
              refine .inr ⟨next, h, rfl, rfl, fun hlook => (by cases hlook), ?_⟩
              rw [Event.renews_of_not_consults hconsults]
              rfl
          | true =>
              rw [hconsults] at h
              cases before with
              | none => cases h
              | some kept =>
                  by_cases htime : event.now.before kept = true
                  · simp only [htime, if_true, Bool.false_eq_true, if_false] at h
                    exact .inr ⟨kept, rfl, rfl, rfl, fun _ => htime, (Option.some.inj h).symm⟩
                  · simp [htime] at h

end

/-- From a deadline that is kept, an unbroken session leads to the deadline that holds. -/
theorem foldl_of_unbroken (h : Unbroken ends deadline since) :
    since.foldl (nextWindow ends) (some deadline)
      = some (deadlineAfter ends deadline since) := by
  -- Generalised over the deadline, which a touch moves.
  induction since generalizing deadline with
  | nil => rfl
  | cons event since ih =>
      obtain ⟨hstarts, hstops, hfirst, hrest⟩ := Unbroken.cons_iff.mp h
      rw [List.foldl_cons, nextWindow_of_quiet hstarts hstops hfirst, ih hrest]
      rfl

/-- A deadline that is kept in the end was kept all along, or a session was started on the
way. -/
theorem of_foldl_eq_some {past : List Event} {before : Option Instant}
    (h : past.foldl (nextWindow ends) before = some deadline) :
    (∃ earlier start since, past = earlier ++ start :: since ∧ start.starts = true
        ∧ Unbroken ends (ends start.now) since
        ∧ deadlineAfter ends (ends start.now) since = deadline)
      ∨ ∃ first, before = some first ∧ Unbroken ends first past
        ∧ deadlineAfter ends first past = deadline := by
  -- From the front, so that the start that is found is the last one: what follows it is
  -- unbroken.
  induction past generalizing before with
  | nil => exact .inr ⟨deadline, h, .nil, rfl⟩
  | cons event past ih =>
      rw [List.foldl_cons] at h
      rcases ih h with ⟨earlier, start, since, heq, hrest⟩ | ⟨first, hfirst, hunbroken, hend⟩
      · -- The session was started after this event.
        exact .inl ⟨event :: earlier, start, since, by rw [heq, List.cons_append], hrest⟩
      · rcases of_nextWindow_eq_some hfirst with
          ⟨hstarts, rfl⟩ | ⟨kept, hkept, hstarts, hstops, htime, rfl⟩
        · -- This event started it.
          exact .inl ⟨[], event, past, rfl, hstarts, hunbroken, hend⟩
        · -- It goes on through this event.
          have hall : Unbroken ends kept (event :: past) :=
            Unbroken.cons_iff.mpr ⟨hstarts, hstops, htime, hunbroken⟩
          exact .inr ⟨kept, hkept, hall, hend⟩

/-- The deadline that is kept, told by the history. -/
theorem window_eq_some_iff {past : List Event} :
    window ends past = some deadline
      ↔ ∃ earlier start since, past = earlier ++ start :: since ∧ start.starts = true
        ∧ Unbroken ends (ends start.now) since
        ∧ deadlineAfter ends (ends start.now) since
            = deadline := by
  constructor
  · intro h
    rcases of_foldl_eq_some h with hstart | ⟨first, hfirst, -⟩
    · exact hstart
    · cases hfirst
  · rintro ⟨earlier, start, since, rfl, hstarts, hunbroken, rfl⟩
    have hstart : nextWindow ends (earlier.foldl (nextWindow ends) none) start
        = some (ends start.now) := by
      unfold nextWindow
      rw [hstarts, if_pos rfl]
    rw [window, List.foldl_append, List.foldl_cons, hstart, foldl_of_unbroken hunbroken]

/-- The session goes on while the deadline that is kept has not come. -/
theorem open_iff {past : List Event} {now : Instant} :
    Open ends past now
      ↔ ∃ deadline, window ends past = some deadline ∧ now.before deadline = true := by
  constructor
  · rintro ⟨earlier, start, since, heq, hstarts, hunbroken, htime⟩
    exact ⟨_, window_eq_some_iff.mpr ⟨earlier, start, since, heq, hstarts, hunbroken, rfl⟩, htime⟩
  · rintro ⟨deadline, hwindow, htime⟩
    obtain ⟨earlier, start, since, heq, hstarts, hunbroken, rfl⟩ :=
      window_eq_some_iff.mp hwindow
    exact ⟨earlier, start, since, heq, hstarts, hunbroken, htime⟩

/-- It matters only where sessions end that were started or put off. -/
theorem open_congr {other : Instant → Instant} {past : List Event} {now : Instant}
    (h : ∀ event ∈ past, ends event.now = other event.now) :
    Open ends past now ↔ Open other past now := by
  have hwindow : window ends past = window other past := by
    refine List.foldl_ext _ _ _ fun kept event hmem => ?_
    unfold nextWindow
    rw [h event hmem]
  rw [open_iff, open_iff, hwindow]

/-- Sessions go on until their expiry, if none of these is a leap second away from the end of a
minute. -/
theorem open_keptUntil_iff {length : Span} {past : List Event} {now : Instant}
    (h : ∀ event ∈ past, (Session.expiry length event.now).IsRegular) :
    Open (Session.keptUntil length) past now ↔ Open (Session.expiry length) past now :=
  open_congr fun event hmem => Instant.asRead_of_isRegular (h event hmem)

/-! ### The deadline in the store -/

/-- The deadline is that of the session in the slots. -/
structure Tracks (kept : Option Instant) (slots : Slots) : Prop where
  consistent : Consistent slots
  absent : kept = none → slots.lookup? sessionKey = none
  present : ∀ deadline, kept = some deadline →
    ∃ session, slots.KeepsSession session ∧ session.expiresAt = deadline

variable {settings : Settings}

namespace Tracks

variable {kept : Option Instant} {world : World} {slots other : Slots}

/-- Two kinds of slots, by whether the deadline that is kept is still to come. -/
theorem live_or_dead (h : Tracks kept slots) (now : Instant) :
    (∃ deadline session, kept = some deadline ∧ now.before deadline = true
        ∧ slots.KeepsSession session ∧ session.expiresAt = deadline
        ∧ session.isLiveAt now = true)
      ∨ (∀ deadline, kept = some deadline → now.before deadline = false)
        ∧ ∀ session, slots.KeepsSession session → session.isLiveAt now = false := by
  cases hkept : kept with
  | none =>
      refine .inr ⟨fun _ hnone => (by cases hnone), fun session hsession => ?_⟩
      exact absurd (h.absent hkept) hsession.lookup?_ne_none
  | some deadline =>
      obtain ⟨session, hsession, hexpires⟩ := h.present deadline hkept
      cases htime : now.before deadline with
      | true =>
          refine .inl ⟨deadline, session, rfl, htime, hsession, hexpires, ?_⟩
          rw [Session.isLiveAt, hexpires]
          exact htime
      | false =>
          refine .inr ⟨?_, ?_⟩
          · rintro found ⟨⟩
            exact htime
          · intro found hfound
            rw [hsession.unique hfound, Session.isLiveAt, hexpires]
            exact htime

/-- Slots with the same session have the same deadline. -/
theorem congr (h : Tracks kept slots) (hconsistent : Consistent other)
    (hslot : other.lookup? sessionKey = slots.lookup? sessionKey) : Tracks kept other := by
  refine ⟨hconsistent, fun hnone => hslot.trans (h.absent hnone), fun deadline hsome => ?_⟩
  obtain ⟨session, hsession, hexpires⟩ := h.present deadline hsome
  exact ⟨session, hsession.congr hslot, hexpires⟩

/-- A session that was just started has the deadline of its start. -/
theorem started {keypair : Keypair} {now : Instant} (hconsistent : Consistent slots)
    (hsession : slots.KeepsSession (.begun settings.session keypair now)) :
    Tracks (some (Session.keptUntil settings.session now)) slots := by
  refine ⟨hconsistent, fun h => (by cases h), ?_⟩
  rintro deadline ⟨⟩
  exact ⟨_, hsession, rfl⟩

/-- Where no session is kept, there is no deadline. -/
theorem stopped (hconsistent : Consistent slots) (hslot : slots.lookup? sessionKey = none) :
    Tracks none slots :=
  ⟨hconsistent, fun _ => hslot, fun _ h => by cases h⟩

/-- A call that looks at the session leaves the deadline that the event says. -/
theorem next_of_consults (h : Tracks kept world.store.slots) (hsound : world.Sound) {call : Call}
    (hquiet : (call.event settings world).starts = false
      ∧ (call.event settings world).stops = false)
    (hconsults : (call.event settings world).consults = true)
    (hconsistent : Consistent (call.event settings world).after) :
    Tracks (nextWindow (Session.keptUntil settings.session) kept (call.event settings world))
      (call.event settings world).after := by
  unfold nextWindow
  rw [hquiet.1, hquiet.2, hconsults]
  simp only [Bool.false_eq_true, if_false, if_true]
  rcases h.live_or_dead world.now with
    ⟨deadline, session, rfl, htime, hsession, hexpires, hlive⟩ | ⟨hkept, hdead⟩
  · obtain ⟨-, renewed, hrenewed, hdeadline⟩ :=
      event_of_live hsound h.consistent hsession hlive hconsults
    have hnow : (call.event settings world).now = world.now := rfl
    simp only [hnow, htime, if_true]
    refine ⟨hconsistent, fun hnone => (by cases hnone), ?_⟩
    rintro found ⟨⟩
    refine ⟨renewed, hrenewed, ?_⟩
    rw [hdeadline, hexpires]
  · obtain ⟨-, hafter⟩ := event_of_dead hsound h.consistent hdead hconsults
    cases kept with
    | none => exact stopped hconsistent hafter
    | some deadline =>
        have hnow : (call.event settings world).now.before deadline = false := hkept deadline rfl
        simp only [hnow, Bool.false_eq_true, if_false]
        exact stopped hconsistent hafter

/-- Any other call, which neither starts nor ends a session, leaves the deadline. -/
theorem next_of_ignores (h : Tracks kept world.store.slots) {event : Event}
    (hquiet : event.starts = false ∧ event.stops = false) (hconsults : event.consults = false)
    (hconsistent : Consistent event.after)
    (hslot : event.after.lookup? sessionKey = world.store.slots.lookup? sessionKey) :
    Tracks (nextWindow (Session.keptUntil settings.session) kept event) event.after := by
  unfold nextWindow
  rw [hquiet.1, hquiet.2, hconsults]
  exact h.congr hconsistent hslot

/-- A call that was refused leaves the deadline. -/
theorem next_of_refused (h : Tracks kept world.store.slots) {call : Call} {e : WalletError}
    {now : Instant} {after : Slots}
    (hconsults : Event.consults ⟨call, now, .error e, world.store.slots, after⟩ = false)
    (hafter : after = world.store.slots) :
    Tracks (nextWindow (Session.keptUntil settings.session) kept
        ⟨call, now, .error e, world.store.slots, after⟩) after := by
  refine h.next_of_ignores ⟨?_, ?_⟩ hconsults ?_ (by rw [hafter])
  · cases call <;> rfl
  · cases call <;> rfl
  · rw [hafter]
    exact h.consistent

/-- A wallet that is made starts a session. -/
theorem next_create (h : Tracks kept world.store.slots) (hsound : world.Sound)
    (password : String) :
    Tracks (nextWindow (Session.keptUntil settings.session) kept
        ((Call.create password).event settings world))
      ((Call.create password).event settings world).after := by
  cases hrun : (create settings password).runIn world with
  | mk result after =>
      rw [Call.event_of_run .created rfl hrun]
      cases result with
      | error e => exact h.next_of_refused rfl (create_eq_error hsound hrun)
      | ok created =>
          obtain ⟨-, phrase, record, -, -, -, hslots, hshows, -⟩ := create_eq_ok hrun
          show Tracks (some (Session.keptUntil settings.session world.now)) after.store.slots
          rw [hslots]
          exact started (consistent_installed settings hshows _ _)
            (keeps_installed phrase.keypair hshows.version _ _).2

/-- A wallet that is restored starts a session. -/
theorem next_restore (h : Tracks kept world.store.slots) (hsound : world.Sound)
    (typed password : String) :
    Tracks (nextWindow (Session.keptUntil settings.session) kept
        ((Call.restore typed password).event settings world))
      ((Call.restore typed password).event settings world).after := by
  cases hrun : (restore settings typed password).runIn world with
  | mk result after =>
      rw [Call.event_of_run .summary rfl hrun]
      cases result with
      | error e => exact h.next_of_refused rfl (restore_eq_error hsound hrun)
      | ok summary =>
          obtain ⟨phrase, record, -, -, hslots, hshows, -⟩ := restore_eq_ok hrun
          show Tracks (some (Session.keptUntil settings.session world.now)) after.store.slots
          rw [hslots]
          exact started (consistent_installed settings hshows _ _)
            (keeps_installed phrase.keypair hshows.version _ _).2

/-- An unlock starts a session. -/
theorem next_unlock (h : Tracks kept world.store.slots) (hsound : world.Sound)
    (password : String) :
    Tracks (nextWindow (Session.keptUntil settings.session) kept
        ((Call.unlock password).event settings world))
      ((Call.unlock password).event settings world).after := by
  -- That the slots stay consistent is known from the writes, whatever the outcome.
  have hconsistent := (Call.unlock password).writes_end settings world h.consistent
  cases hrun : (unlock settings password).runIn world with
  | mk result after =>
      have houtcome : ((Call.unlock password).outcome settings world).2 = after := by
        rw [Call.outcome_of_run _ rfl hrun]
      rw [Call.event_of_run .summary rfl hrun]
      rw [houtcome] at hconsistent
      cases result with
      | error e => exact h.next_of_refused rfl (unlock_eq_error hsound hrun)
      | ok summary =>
          obtain ⟨record, keypair, -, -, -, hslots⟩ := unlock_eq_ok hrun
          have hsession : after.store.slots.KeepsSession
              (.begun settings.session keypair world.now) := by
            rw [hslots]
            exact Session.keeps_begun _ _ _ _
          exact started hconsistent hsession

/-- Locking ends the session. -/
theorem next_lock (h : Tracks kept world.store.slots) (hsound : world.Sound) :
    Tracks (nextWindow (Session.keptUntil settings.session) kept (Call.lock.event settings world))
      (Call.lock.event settings world).after := by
  rw [Call.event_of_run (fun _ => .done) rfl (Session.finish_sound hsound)]
  exact stopped h.consistent.erase_session Store.Slots.lookup?_erase_self

/-- Deleting the wallet ends it, too. -/
theorem next_delete (hsound : world.Sound) :
    Tracks (nextWindow (Session.keptUntil settings.session) kept (Call.delete.event settings world))
      (Call.delete.event settings world).after := by
  rw [Call.event_of_run (fun _ => .done) rfl (delete_of_sound hsound)]
  refine stopped (.erase_record Store.Slots.lookup?_erase_self) ?_
  show ((world.store.slots.erase sessionKey).erase walletKey).lookup? sessionKey = none
  rw [Store.Slots.lookup?_erase_ne Store.sessionKey_ne_walletKey]
  exact Store.Slots.lookup?_erase_self

/-- Changing the password leaves it alone. -/
theorem next_changePassword (h : Tracks kept world.store.slots) (hsound : world.Sound)
    (old new : String) :
    Tracks (nextWindow (Session.keptUntil settings.session) kept
        ((Call.changePassword old new).event settings world))
      ((Call.changePassword old new).event settings world).after := by
  have hconsistent := (Call.changePassword old new).writes_end settings world h.consistent
  cases hrun : (changePassword settings old new).runIn world with
  | mk result after =>
      have houtcome : ((Call.changePassword old new).outcome settings world).2 = after := by
        rw [Call.outcome_of_run _ rfl hrun]
      rw [Call.event_of_run (fun _ => .done) rfl hrun]
      rw [houtcome] at hconsistent
      cases result with
      | error e => exact h.next_of_refused rfl (changePassword_eq_error hsound hrun)
      | ok u =>
          obtain ⟨-, resealed, -, -, -, -, -, -, hslots⟩ := changePassword_eq_ok hrun
          refine h.next_of_ignores ⟨rfl, rfl⟩ rfl hconsistent ?_
          show after.store.slots.lookup? sessionKey = _
          rw [hslots]
          exact Store.Slots.lookup?_insert_ne Store.sessionKey_ne_walletKey

/-- A call that needs the key, while there is no record, changes nothing. -/
theorem next_of_needsKey (h : Tracks kept world.store.slots) (hsound : world.Sound) {call : Call}
    (hneeds : call.needsKey = true) (hconsults : (call.event settings world).consults = false) :
    Tracks (nextWindow (Session.keptUntil settings.session) kept (call.event settings world))
      (call.event settings world).after := by
  obtain ⟨next, hcommand, -⟩ := call.command_eq_withKey hneeds settings
  have hnone := hconsults
  rw [consults_of_needsKey hneeds, Option.isSome_eq_false_iff, Option.isNone_iff_eq_none] at hnone
  refine h.next_of_ignores ?_ hconsults (call.writes_end settings world h.consistent) ?_
  · cases call with
    | exportPhrase password => exact ⟨rfl, rfl⟩
    | exportKey password => exact ⟨rfl, rfl⟩
    | sign typed amount nonce => exact ⟨rfl, rfl⟩
    | prepare typed => exact ⟨rfl, rfl⟩
    | submission typed amount nonce => exact ⟨rfl, rfl⟩
    | _ => cases hneeds
  · show (call.outcome settings world).2.store.slots.lookup? sessionKey = _
    rw [Call.outcome, hcommand, withKey_of_none hsound hnone]
    rfl

/-- Every call leaves the deadline that its event says. -/
theorem next (h : Tracks kept world.store.slots) (hsound : world.Sound) (call : Call) :
    Tracks (nextWindow (Session.keptUntil settings.session) kept (call.event settings world))
      (call.event settings world).after := by
  -- The five calls that need the key look at the session only where there is a record.
  have hneeds : call.needsKey = true → (call.event settings world).starts = false
      ∧ (call.event settings world).stops = false →
      Tracks (nextWindow (Session.keptUntil settings.session) kept (call.event settings world))
        (call.event settings world).after := by
    intro hneeds hquiet
    cases hconsults : (call.event settings world).consults with
    | true =>
        exact h.next_of_consults hsound hquiet hconsults
          (call.writes_end settings world h.consistent)
    | false => exact h.next_of_needsKey hsound hneeds hconsults
  cases call with
  | create password => exact h.next_create hsound password
  | restore typed password => exact h.next_restore hsound typed password
  | unlock password => exact h.next_unlock hsound password
  | lock => exact h.next_lock hsound
  | delete => exact next_delete hsound
  | changePassword old new => exact h.next_changePassword hsound old new
  | exportPhrase password => exact hneeds rfl ⟨rfl, rfl⟩
  | exportKey password => exact hneeds rfl ⟨rfl, rfl⟩
  | sign typed amount nonce => exact hneeds rfl ⟨rfl, rfl⟩
  | prepare typed => exact hneeds rfl ⟨rfl, rfl⟩
  | submission typed amount nonce => exact hneeds rfl ⟨rfl, rfl⟩
  | _ =>
      exact h.next_of_consults hsound ⟨rfl, rfl⟩ rfl
        (Call.writes_end settings world _ h.consistent)

end Tracks

/-- Along a run from an empty store, the deadline in the store is the one of the history. -/
theorem Run.tracks {start world : World} {past : List Event} (hempty : start.store.slots = [])
    (hrun : Run settings start past world) :
    Tracks (window (Session.keptUntil settings.session) past) world.store.slots := by
  induction hrun with
  | start =>
      rw [hempty]
      exact .stopped .empty rfl
  | call now call run ih =>
      rw [window, List.foldl_append]
      -- Neither the clock nor the fate of later calls is part of what is tracked.
      have hcalm : Tracks (window (Session.keptUntil settings.session) _)
          (World.calm _ now).store.slots := ih
      exact hcalm.next (World.calm_sound _ now) call

/-- After a run from an empty store, a call that looks at the session finds the wallet unlocked
just if the deadline of the run is still to come. -/
theorem Run.found?_iff {start world : World} {past : List Event}
    (hempty : start.store.slots = []) (hrun : Run settings start past world) (now : Instant)
    (call : Call) (hconsults : (call.event settings (world.calm now)).consults = true) :
    ∃ found, (call.event settings (world.calm now)).found? = some found
      ∧ (found = true ↔ ∃ deadline,
          window (Session.keptUntil settings.session) past = some deadline
            ∧ now.before deadline = true) := by
  have hend := hrun.tracks hempty
  have htracks : Tracks (window (Session.keptUntil settings.session) past)
      (world.calm now).store.slots := hend
  have hsound := World.calm_sound world now
  rcases htracks.live_or_dead now with
    ⟨deadline, session, hkept, htime, hsession, -, hlive⟩ | ⟨hkept, hdead⟩
  · obtain ⟨hfound, -⟩ :=
      event_of_live hsound htracks.consistent hsession hlive hconsults
    exact ⟨true, hfound, fun _ => ⟨deadline, hkept, htime⟩, fun _ => rfl⟩
  · obtain ⟨hfound, -⟩ := event_of_dead hsound htracks.consistent hdead hconsults
    refine ⟨false, hfound, fun h => (by cases h), ?_⟩
    rintro ⟨deadline, hwindow, htime⟩
    rw [hkept deadline hwindow] at htime
    cases htime

/-- After any run from an empty store, whichever call looks at the session next, and whatever
the clock says then: the call finds the wallet unlocked if the last session goes on by the
history of the run, and locked if not. Sessions end where the texts of their expiries read. -/
theorem unlocked_iff_open {start world : World} {past : List Event}
    (hempty : start.store.slots = []) (hrun : Run settings start past world) (now : Instant)
    (call : Call) (hconsults : (call.event settings (world.calm now)).consults = true) :
    ∃ found, (call.event settings (world.calm now)).found? = some found
      ∧ (found = true ↔ Open (Session.keptUntil settings.session) past now) := by
  rw [open_iff]
  exact hrun.found?_iff hempty now call hconsults

/-- There is such a run, and a wallet that is unlocked after it: it was just made. -/
theorem unlocked_iff_open_created :
    ∃ (past : List Event) (world : World),
      Run ⟨.ofSeconds 1800, .light⟩ ⟨Store.empty, .epoch, .ofBytes [7]⟩ past world
        ∧ (Call.isUnlocked.event ⟨.ofSeconds 1800, .light⟩ (world.calm .epoch)).found?
            = some true := by
  let settings : Settings := ⟨.ofSeconds 1800, .light⟩
  let start : World := ⟨Store.empty, .epoch, .ofBytes [7]⟩
  obtain ⟨created, after, hcreate⟩ := exists_created
  have hevent : (Call.create "Correct-Horse-42").event settings (start.calm .epoch)
      = ⟨.create "Correct-Horse-42", .epoch, .ok (.created created), [], after.store.slots⟩ :=
    Call.event_of_run .created rfl hcreate
  have hstart : Run settings start [] start := .start
  have hrun := hstart.call Instant.epoch (.create "Correct-Horse-42")
  have hempty : start.store.slots = [] := rfl
  have htime : Instant.epoch.before (Session.keptUntil settings.session .epoch) = true := by
    decide +kernel
  obtain ⟨found, hfound, hopen⟩ := unlocked_iff_open hempty hrun .epoch .isUnlocked rfl
  refine ⟨_, _, hrun, ?_⟩
  have htrue : found = true := by
    refine hopen.mpr ⟨[], _, [], rfl, ?_, .nil, ?_⟩
    · rw [hevent]
      rfl
    · rw [hevent, deadlineAfter, List.foldl_nil]
      exact htime
  rw [htrue] at hfound
  exact hfound

/-- A wallet that is made inside a leap second that does not end a minute, with sessions of no
length. At that reading of the clock it is found unlocked, though the session that was started has
then expired. -/
theorem unlocked_beyond_expiry :
    ∃ (now : Instant) (past : List Event) (world : World),
      now.seconds = 4 ∧ now.nanos = 1333333333
        ∧ Run ⟨.ofSeconds 0, .light⟩ ⟨Store.empty, .epoch, .ofBytes [7]⟩ past world
        ∧ (Call.isUnlocked.event ⟨.ofSeconds 0, .light⟩ (world.calm now)).found? = some true
        ∧ ¬ Open (Session.expiry (.ofSeconds 0)) past now := by
  let now : Instant := ⟨4, 1333333333, by decide, by decide, by decide⟩
  let settings : Settings := ⟨.ofSeconds 0, .light⟩
  let start : World := ⟨Store.empty, .epoch, .ofBytes [7]⟩
  obtain ⟨created, after, hcreate⟩ := exists_created_at (.ofSeconds 0) now
  have hevent : (Call.create "Correct-Horse-42").event settings (start.calm now)
      = ⟨.create "Correct-Horse-42", now, .ok (.created created), [], after.store.slots⟩ :=
    Call.event_of_run .created rfl hcreate
  have hstart : Run settings start [] start := .start
  have hrun := hstart.call now (.create "Correct-Horse-42")
  rw [hevent] at hrun
  obtain ⟨found, hfound, hiff⟩ := hrun.found?_iff rfl now .isUnlocked rfl
  refine ⟨now, _, _, rfl, rfl, hrun, ?_, ?_⟩
  · have htime : now.before (Session.keptUntil (.ofSeconds 0) now) = true := by decide +kernel
    rw [hiff.mpr ⟨_, rfl, htime⟩] at hfound
    exact hfound
  · -- By its expiry, the session is over where it starts.
    have htime : now.before (Session.expiry (.ofSeconds 0) now) = false := by decide +kernel
    rw [open_iff]
    rintro ⟨deadline, hwindow, hbefore⟩
    cases hwindow
    rw [htime] at hbefore
    cases hbefore

end Custody.Wallet
