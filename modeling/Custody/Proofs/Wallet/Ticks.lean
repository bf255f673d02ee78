import Custody.Proofs.Wallet.Exchange
import Custody.Proofs.Wallet.InStep

/-!
# `Custody.Proofs.Wallet.Ticks`: the ticker is never noticed

The ticker has somebody look at the session every now and then, so that one that has expired
does not lie around until the next call. It makes no other difference. Take any run of calls and
transfers with ticks in between, and take the ticks away (`Step.withoutTicks`). As long as the
clock never goes back, every call answers as before, and the stores differ in a session at most
that nobody can use any more. This is `ticks_are_invisible`.

A tick keeps worlds in step if it happens on one side only (`InStep.ticked`), because a session
that is over at one reading of the clock is over at every later one (`Spent.later`).
-/

set_option autoImplicit false

namespace Custody

open Time Command
open Store (Slots walletKey sessionKey)

/-! ### Time goes on -/

namespace Time.Instant

/-- No instant is before itself. -/
theorem not_before_self (t : Instant) : t.before t = false := by
  simp [before]

/-- What comes after something comes after all before it. -/
theorem not_before_trans {first second third : Instant} (h : second.before first = false)
    (h' : third.before second = false) : third.before first = false := by
  simp only [before, Bool.or_eq_false_iff, Bool.and_eq_false_imp, decide_eq_false_iff_not,
    decide_eq_true_eq] at *
  omega

end Time.Instant

/-- A spent session stays spent. -/
theorem Spent.later {slots : Slots} {now later : Instant} (h : Spent slots now)
    (hlater : later.before now = false) : Spent slots later := by
  obtain ⟨text, hslot, hover⟩ := h
  exact ⟨text, hslot, fun session hread => Instant.not_before_trans (hover session hread) hlater⟩

/-- Slots that differ in a spent session do so later, too. -/
theorem SameBut.later {now later : Instant} {first second : Slots} (h : SameBut now first second)
    (hlater : later.before now = false) : SameBut later first second :=
  ⟨h.elsewhere, h.session.imp_right fun ⟨hnone, hspent⟩ => ⟨hnone, hspent.later hlater⟩⟩

/-- Removing a spent session on the second side. -/
theorem SameBut.erase_second {now : Instant} {first second : Slots} (h : SameBut now first second)
    (hspent : Spent second now) : SameBut now first (second.erase sessionKey) := by
  refine ⟨fun key hkey => ?_, .inr ⟨Store.Slots.lookup?_erase_self, ?_⟩⟩
  · rw [Store.Slots.lookup?_erase_ne hkey]
    exact h.elsewhere key hkey
  · obtain ⟨text, hslot, hover⟩ := hspent
    rcases h.session with hsame | ⟨hnone, hspent⟩
    · exact ⟨text, by rw [← hsame, hslot], hover⟩
    · exact hspent

/-- Worlds in step stay in step as time goes on. -/
theorem InStep.later {now later : Instant} {first second : World} (h : InStep now first second)
    (hlater : later.before now = false) :
    InStep later (first.calm later) (second.calm later) :=
  ⟨⟨World.calm_sound _ _, World.calm_sound _ _⟩, ⟨rfl, rfl⟩, h.tape, h.slots.later hlater⟩

namespace Wallet

/-! ### Ticks -/

/-- The world after a tick: the ticker that was told to look at the session does so. -/
def ticked (world : World) (now : Instant) : World :=
  (startAutoLock .empty).fire (world.calm now)

/-- A tick is a look at the session. -/
theorem ticked_eq (world : World) (now : Instant) :
    ticked world now = (Session.live.runIn (world.calm now)).2 := by
  show (autoLock.runIn (world.calm now)).2 = _
  unfold autoLock
  rw [runIn_discard]
  show (Session.isUnlocked.runIn (world.calm now)).2 = _
  unfold Session.isUnlocked
  rw [runIn_bind, runIn_attempt]
  -- Nobody asks whether the look has succeeded.
  cases Session.live.runIn (world.calm now) with
  | mk result after => cases result <;> rfl

/-- A tick removes a spent session, and does nothing else. -/
theorem ticked_cases (world : World) (now : Instant) :
    (ticked world now).tape = world.tape
      ∧ ((ticked world now).store.slots = world.store.slots
        ∨ Spent world.store.slots now
          ∧ (ticked world now).store.slots = world.store.slots.erase sessionKey) := by
  rw [ticked_eq, Session.runIn_live (World.calm_sound world now), World.calm_slots]
  cases hslot : world.store.slots.lookup? sessionKey with
  | none => exact ⟨rfl, .inl rfl⟩
  | some slot =>
      cases slot with
      | blob => exact ⟨rfl, .inl rfl⟩
      | text text =>
          simp only
          cases hread : Session.ofText? text with
          | none =>
              refine ⟨rfl, .inr ⟨⟨text, hslot, fun session hsession => ?_⟩, rfl⟩⟩
              rw [hread] at hsession
              cases hsession
          | some session =>
              simp only
              split
              · exact ⟨rfl, .inl rfl⟩
              · rename_i hover
                refine ⟨rfl, .inr ⟨⟨text, hslot, fun found hfound => ?_⟩, rfl⟩⟩
                rw [hread] at hfound
                cases hfound
                exact Bool.eq_false_iff.mpr hover

end Wallet

/-- Readings of a clock that never goes back. -/
def InOrder (readings : List Instant) : Prop :=
  readings.Pairwise fun earlier later => later.before earlier = false

section
variable {now : Instant} {first second : World}

/-- A tick on the second side keeps the worlds in step. -/
theorem InStep.tick (h : InStep now (first.calm now) (second.calm now)) :
    InStep now (first.calm now) ((Wallet.ticked second now).calm now) := by
  obtain ⟨htape, hslots⟩ := Wallet.ticked_cases second now
  have hsame : SameBut now first.store.slots second.store.slots := h.slots
  refine ⟨⟨World.calm_sound _ _, World.calm_sound _ _⟩, ⟨rfl, rfl⟩, htape.trans h.tape, ?_⟩
  show SameBut now first.store.slots (Wallet.ticked second now).store.slots
  rcases hslots with hslots | ⟨hspent, hslots⟩
  · rw [hslots]
    exact hsame
  · rw [hslots]
    exact hsame.erase_second hspent

/-- So do ticks on the second side while both sides wait. -/
theorem InStep.ticks {answered : Instant} {ticks : List Instant}
    (h : InStep now (first.calm now) (second.calm now))
    (horder : InOrder (now :: (ticks ++ [answered]))) :
    InStep answered (first.calm answered) ((ticks.foldl Wallet.ticked second).calm answered) := by
  induction ticks generalizing now second with
  | nil =>
      obtain ⟨hafter, -⟩ := List.pairwise_cons.mp horder
      exact h.later (hafter answered List.mem_cons_self)
  | cons tick ticks ih =>
      obtain ⟨hafter, hrest⟩ := List.pairwise_cons.mp horder
      have htick : InStep tick (first.calm tick) (second.calm tick) :=
        h.later (hafter tick List.mem_cons_self)
      exact ih htick.tick hrest

end

namespace Wallet

/-! ### Runs with ticks -/

/-- A ledger whose answers depend on the question only, and the time that it takes: the ticks
while it is asked, and the clock when it has answered. -/
structure Service where
  account : String → Except Ledger.Error Ledger.Account
  accept : Submission → Except Ledger.Error String
  accountTicks : List Instant
  accountNow : Instant
  acceptTicks : List Instant
  acceptNow : Instant

namespace Service

/-- The ledger as a transfer sees it. -/
def client (service : Service) : Client Id where
  fetch address world :=
    (service.account address, (service.accountTicks.foldl ticked world).calm service.accountNow)
  submit submission world :=
    (service.accept submission, (service.acceptTicks.foldl ticked world).calm service.acceptNow)

/-- The same ledger where nothing ticks. -/
def withoutTicks (service : Service) : Service :=
  { service with accountTicks := [], acceptTicks := [] }

/-- The account is told after the ticks that come before it. -/
theorem fetch_client (service : Service) (address : String) (world : World) :
    service.client.fetch address world
      = (service.account address,
        (service.accountTicks.foldl ticked world).calm service.accountNow) := rfl

/-- The clock, tick after tick and answer after answer. -/
def readings (service : Service) : List Instant :=
  (service.accountTicks ++ [service.accountNow]) ++ (service.acceptTicks ++ [service.acceptNow])

end Service

/-- One thing that happens, with the clock at that time. -/
inductive Step where
  | tick (now : Instant)
  | call (now : Instant) (call : Call)
  | send (now : Instant) (typed : String) (amount : UInt64) (service : Service)

/-- What a call or a transfer answers. -/
inductive Reply where
  | answer (answer : Except WalletError Answer)
  | receipt (receipt : Except WalletError Receipt)

namespace Step

/-- The answer, if there is one, and the world after it. -/
def run (settings : Settings) (world : World) : Step → Option Reply × World
  | .tick now => (none, ticked world now)
  | .call now asked =>
    let (answer, after) := asked.outcome settings (world.calm now)
    (some (.answer answer), after)
  | .send now typed amount service =>
    let (receipt, after) := Wallet.send service.client typed amount (world.calm now)
    (some (.receipt receipt), after)

/-- The step without ticks; a tick is nothing then. -/
def withoutTicks : Step → Option Step
  | .tick _ => none
  | .call now asked => some (.call now asked)
  | .send now typed amount service => some (.send now typed amount service.withoutTicks)

/-- The clock at a step. -/
def readings : Step → List Instant
  | .tick now => [now]
  | .call now _ => [now]
  | .send now _ _ service => now :: service.readings

end Step

/-- All that is answered in a run, each with the world after it. -/
def play (settings : Settings) : World → List Step → List (Reply × World)
  | _, [] => []
  | world, step :: steps =>
    match step.run settings world with
    | (none, after) => play settings after steps
    | (some reply, after) => (reply, after) :: play settings after steps

/-! ### Calls and transfers in step -/

section
variable {now : Instant} {first second : World}

/-- A transfer is settled alike with and without the ticks, and both worlds are in step
afterwards. -/
theorem settle_inStep (h : InStep now first second) (service : Service)
    (horder : InOrder (now :: (service.acceptTicks ++ [service.acceptNow]))) (typed : String)
    (amount nonce : UInt64) :
    (settle service.client typed amount nonce second).1
        = (settle service.withoutTicks.client typed amount nonce first).1
      ∧ ∃ later ∈ [now, service.acceptNow],
        InStep later (settle service.withoutTicks.client typed amount nonce first).2
          (settle service.client typed amount nonce second).2 := by
  obtain ⟨hresult, hworlds⟩ := Agrees.signSubmission typed amount nonce now first second h
  unfold settle
  cases hfirst : (signSubmission typed amount nonce).runIn first with
  | mk result signed =>
      cases hsecond : (signSubmission typed amount nonce).runIn second with
      | mk result' signed' =>
          rw [hfirst, hsecond] at hresult hworlds
          obtain rfl : result' = result := hresult
          cases result' with
          | error e => exact ⟨rfl, now, List.mem_cons_self, hworlds⟩
          | ok given =>
              obtain ⟨tx, submission⟩ := given
              have hlater := (hworlds.later (Instant.not_before_self now)).ticks horder
              simp only [Service.client, Service.withoutTicks]
              -- The ledger says the same on both sides.
              cases service.accept submission with
              | error e => exact ⟨rfl, _, List.mem_cons_of_mem _ List.mem_cons_self, hlater⟩
              | ok response => exact ⟨rfl, _, List.mem_cons_of_mem _ List.mem_cons_self, hlater⟩

/-- A transfer answers the same with ticks in it as without, and leaves worlds in step. -/
theorem send_inStep (h : InStep now first second) (service : Service)
    (horder : InOrder (now :: service.readings)) (typed : String) (amount : UInt64) :
    (send service.client typed amount second).1
        = (send service.withoutTicks.client typed amount first).1
      ∧ ∃ later ∈ now :: service.readings,
        InStep later (send service.withoutTicks.client typed amount first).2
          (send service.client typed amount second).2 := by
  have hasked : InOrder (now :: (service.accountTicks ++ [service.accountNow])) :=
    horder.sublist (List.Sublist.cons_cons _ (List.sublist_append_left _ _))
  have hanswered : InOrder (service.accountNow :: (service.acceptTicks ++ [service.acceptNow])) :=
    horder.sublist <| by
      rw [Service.readings, List.append_assoc]
      exact (List.sublist_append_right _ _).cons _
  obtain ⟨hresult, hworlds⟩ := Agrees.prepare typed now first second h
  rw [send_eq, send_eq]
  cases hfirst : (prepare typed).runIn first with
  | mk result prepared =>
      cases hsecond : (prepare typed).runIn second with
      | mk result' prepared' =>
          rw [hfirst, hsecond] at hresult hworlds
          obtain rfl : result' = result := hresult
          cases result' with
          | error e => exact ⟨rfl, now, List.mem_cons_self, hworlds⟩
          | ok record =>
              have hlater := (hworlds.later (Instant.not_before_self now)).ticks hasked
              have hsame : service.withoutTicks.account = service.account := rfl
              simp only [Service.fetch_client, hsame]
              cases service.account record.address with
              | error e => exact ⟨rfl, service.accountNow, by simp [Service.readings], hlater⟩
              | ok account =>
                  obtain ⟨hsettled, later, hmem, hafter⟩ :=
                    settle_inStep hlater service hanswered typed amount account.nonce
                  refine ⟨hsettled, later, ?_, hafter⟩
                  simp only [List.mem_cons, List.not_mem_nil, or_false] at hmem
                  rcases hmem with rfl | rfl <;> simp [Service.readings]

/-- So does every step, whatever it is. -/
theorem Step.inStep (settings : Settings) {step quiet : Step}
    (hquiet : step.withoutTicks = some quiet)
    (h : ∀ now ∈ step.readings, InStep now (first.calm now) (second.calm now))
    (horder : InOrder step.readings) :
    ∃ reply, (quiet.run settings first).1 = some reply ∧ (step.run settings second).1 = some reply
      ∧ ∃ later ∈ step.readings,
        InStep later (quiet.run settings first).2 (step.run settings second).2 := by
  cases step with
  | tick now => cases hquiet
  | call now asked =>
      cases hquiet
      obtain ⟨hresult, hworlds⟩ :=
        asked.agrees settings now _ _ (h now List.mem_cons_self)
      refine ⟨_, rfl, ?_, now, List.mem_cons_self, hworlds⟩
      exact congrArg (some ∘ Reply.answer) hresult
  | send now typed amount service =>
      cases hquiet
      obtain ⟨hresult, later, hmem, hworlds⟩ :=
        send_inStep (h now List.mem_cons_self) service horder typed amount
      refine ⟨_, rfl, ?_, later, hmem, hworlds⟩
      exact congrArg (some ∘ Reply.receipt) hresult

end

/-- What is answered in a run without ticks and in one with them, and the worlds then. -/
structure Unnoticed (plain ticked : Reply × World) : Prop where
  reply : ticked.1 = plain.1
  clock : ticked.2.now = plain.2.now
  slots : SameBut plain.2.now plain.2.store.slots ticked.2.store.slots

/-- What is answered in worlds in step is answered alike, and the difference goes unnoticed. -/
theorem unnoticed_of_inStep {now : Instant} {first second : World} (h : InStep now first second)
    (reply : Reply) : Unnoticed (reply, first) (reply, second) := by
  obtain ⟨hfirst, hsecond⟩ := h.clock
  refine ⟨rfl, hsecond.trans hfirst.symm, ?_⟩
  rw [hfirst]
  exact h.slots

/-- A whole play is alike with and without the ticks. By induction on the steps, the worlds stay
in step. -/
theorem play_inStep (settings : Settings) {steps : List Step} {first second : World}
    (h : ∀ now ∈ steps.flatMap Step.readings, InStep now (first.calm now) (second.calm now))
    (horder : InOrder (steps.flatMap Step.readings)) :
    List.Forall₂ Unnoticed (play settings first (steps.filterMap Step.withoutTicks))
      (play settings second steps) := by
  induction steps generalizing first second with
  | nil => exact .nil
  | cons step steps ih =>
      obtain ⟨hstep, hrest, hafter⟩ := List.pairwise_append.mp horder
      have hnow : ∀ now ∈ step.readings, InStep now (first.calm now) (second.calm now) :=
        fun now hmem => h now (List.mem_append_left _ hmem)
      -- Worlds in step at a reading of this step are so at every later one.
      have hlater {now : Instant} (hmem : now ∈ step.readings) {first second : World}
          (hworlds : InStep now first second) : ∀ later ∈ steps.flatMap Step.readings,
            InStep later (first.calm later) (second.calm later) :=
        fun later hrest => hworlds.later (hafter now hmem later hrest)
      cases hquiet : step.withoutTicks with
      | none =>
          cases step with
          | tick now =>
              have htick := (hnow now List.mem_cons_self).tick
              refine ih (fun later hmem => ?_) hrest
              exact htick.later (hafter now List.mem_cons_self later hmem)
          | call now asked => cases hquiet
          | send now typed amount service => cases hquiet
      | some quiet =>
          obtain ⟨reply, hfirst, hsecond, now, hmem, hworlds⟩ :=
            Step.inStep settings hquiet hnow hstep
          rw [List.filterMap_cons, hquiet]
          unfold play
          cases hplain : quiet.run settings first with
          | mk answer after =>
              cases hticked : step.run settings second with
              | mk answer' after' =>
                  rw [hplain] at hfirst hworlds
                  rw [hticked] at hsecond hworlds
                  obtain rfl : answer = some reply := hfirst
                  obtain rfl : answer' = some reply := hsecond
                  exact .cons (unnoticed_of_inStep hworlds reply) (ih (hlater hmem hworlds) hrest)

/-- Nobody notices the ticker. Take a run of calls and transfers on a store that does not fail,
with ticks wherever one likes, and with a clock that never goes back. Every call and every
transfer answers what it answers without the ticks. After each of them the stores hold the same,
but for a session that cannot be used any more at that time: it may be gone. -/
theorem ticks_are_invisible (settings : Settings) (start : World) (steps : List Step)
    (horder : InOrder (steps.flatMap Step.readings)) :
    List.Forall₂ Unnoticed (play settings start (steps.filterMap Step.withoutTicks))
      (play settings start steps) := by
  refine play_inStep settings (fun now _ => ?_) horder
  exact ⟨⟨World.calm_sound _ _, World.calm_sound _ _⟩, ⟨rfl, rfl⟩, rfl, .refl now _⟩

/-- Where a session is over, the wallet is found locked. -/
theorem isUnlocked_of_spent (settings : Settings) {world : World} {now : Instant}
    (h : Spent world.store.slots now) :
    (Call.isUnlocked.outcome settings (world.calm now)).1 = .ok (.flag false) := by
  have hlive := Session.live_of_spent (World.calm_sound world now) h
  rw [Call.outcome_of_run .flag rfl (isUnlocked_of_live hlive)]
  rfl

/-- A wallet whose session is over says that it is locked, with ticks before the question as
without. -/
theorem ticks_are_invisible_expired :
    ∃ (world : World) (plain ticked : Reply × World),
      play .standard world [.call .last .isUnlocked] = [plain]
        ∧ play .standard world [.tick .epoch, .tick .last, .call .last .isUnlocked, .tick .last]
          = [ticked]
        ∧ plain.1 = .answer (.ok (.flag false)) ∧ ticked.1 = .answer (.ok (.flag false))
        ∧ ticked.2.store.slots.lookup? walletKey = plain.2.store.slots.lookup? walletKey := by
  obtain ⟨world, record, keypair, -, -, -, hunlocked, hover⟩ := exists_unlocked
  obtain ⟨session, hsession, -, hkey⟩ := hunlocked.live
  have hdead : session.isLiveAt .last = false := by
    -- With a live session the wallet would be unlocked.
    cases hlive : session.isLiveAt .last with
    | false => rfl
    | true =>
        exact absurd ⟨hunlocked.kept, ⟨session, hsession, hlive, hkey⟩, hunlocked.shown⟩
          (hover keypair)
  have hspent : Spent world.store.slots .last := by
    obtain ⟨text, hslot, hread⟩ := hsession
    refine ⟨text, hslot, fun found hfound => ?_⟩
    rw [hread] at hfound
    obtain rfl := Option.some.inj hfound
    exact hdead
  have horder : InOrder ([Step.tick .epoch, .tick .last, .call .last .isUnlocked,
      .tick .last].flatMap Step.readings) := by
    show List.Pairwise _ [Instant.epoch, .last, .last, .last]
    decide +kernel
  have hruns := ticks_are_invisible .standard world _ horder
  obtain ⟨ticked, hticked⟩ : ∃ ticked, play .standard world
      [.tick .epoch, .tick .last, .call .last .isUnlocked, .tick .last] = [ticked] := ⟨_, rfl⟩
  obtain ⟨plain, hplain, hanswer⟩ : ∃ plain,
      play .standard world [.call .last .isUnlocked] = [plain]
        ∧ plain.1 = .answer (.ok (.flag false)) :=
    ⟨_, rfl, congrArg Reply.answer (isUnlocked_of_spent .standard hspent)⟩
  rw [hticked] at hruns
  obtain ⟨hsame, -⟩ := List.forall₂_cons.mp (hplain ▸ hruns)
  exact ⟨world, plain, ticked, hplain, hticked, hanswer, hsame.reply.trans hanswer,
    hsame.slots.elsewhere walletKey Store.walletKey_ne_sessionKey⟩

end Wallet

end Custody
