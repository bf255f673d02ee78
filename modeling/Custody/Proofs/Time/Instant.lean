import Custody.Time.Instant

/-!
# `Custody.Proofs.Time.Instant`: later by a length of time

`Instant.add?` carries seconds and nanoseconds, and leaves a leap second behind where it has to.
What its result is can be said without any of that: `Instant.IsAfter` tells the two instants from
the time that passes between them. The clock counts no leap second but the one that it is in, so
a leap second lengthens the way only for those who start inside it, and nobody who starts
outside ends inside.

`Instant.add?_eq_some_iff`: where there is such an instant, it is the sum, and where there is
none, there is no sum.

A leap second away from the end of a minute cannot be written. Its text is that of the second
after it, and `Instant.asRead` is the instant that comes back. Regular instants are their own.
-/

set_option autoImplicit false

namespace Custody.Time.Instant

/-- The nanoseconds that pass from one instant to a later one. A leap second that has begun is a
second more than the numbers of the seconds tell. -/
def elapsed (t later : Instant) : Int :=
  (later.seconds - t.seconds) * second + (later.nanos - t.nanos)
    + if t.seconds < later.seconds ∧ second ≤ t.nanos then second else 0

/-- One instant is a length of time after another one. It is inside a leap second only if this is
where the way began. -/
structure IsAfter (t : Instant) (delta : Nat) (later : Instant) : Prop where
  elapsed : t.elapsed later = delta
  leap : second ≤ later.nanos → later.seconds = t.seconds ∧ second ≤ t.nanos

variable {t later : Instant} {delta : Nat}

/-- The two parts of being later. -/
theorem isAfter_iff : t.IsAfter delta later
    ↔ t.elapsed later = delta
      ∧ (second ≤ later.nanos → later.seconds = t.seconds ∧ second ≤ t.nanos) :=
  ⟨fun h => ⟨h.elapsed, h.leap⟩, fun h => ⟨h.1, h.2⟩⟩

/-- There is an instant with some parts if it is the one with these parts. -/
theorem within?_eq_some_iff {seconds : Int} {nanos : Nat} :
    within? seconds nanos = some t ↔ t.seconds = seconds ∧ t.nanos = nanos := by
  unfold within?
  split
  · rw [Option.some.injEq]
    constructor
    · rintro rfl
      exact ⟨rfl, rfl⟩
    · rintro ⟨rfl, rfl⟩
      rfl
  · rename_i hnot
    constructor
    · intro h
      cases h
    · rintro ⟨rfl, rfl⟩
      exact absurd ⟨t.first_le, t.le_last, t.nanos_lt⟩ hnot

/-- Of the instants with these parts, the regular one is given. -/
theorem ofParts?_eq_some_iff {seconds : Int} {nanos : Nat} :
    ofParts? seconds nanos = some t
      ↔ t.seconds = seconds ∧ t.nanos = nanos ∧ t.IsRegular := by
  unfold ofParts? IsRegular
  split
  · rename_i hstray
    constructor
    · intro h
      cases h
    · rintro ⟨rfl, rfl, hregular⟩
      exact absurd (hregular hstray.1) hstray.2
  · rename_i hregular
    rw [within?_eq_some_iff]
    constructor
    · rintro ⟨rfl, rfl⟩
      exact ⟨rfl, rfl, fun hleap => Decidable.not_not.mp fun hne => hregular ⟨hleap, hne⟩⟩
    · rintro ⟨hseconds, hnanos, -⟩
      exact ⟨hseconds, hnanos⟩

/-- Who starts outside a leap second meets none on the way. -/
theorem elapsed_of_lt (h : t.nanos < second) :
    t.elapsed later = (later.seconds - t.seconds) * second + (later.nanos - t.nanos) := by
  rw [elapsed, if_neg (fun hleap => Nat.not_le.mpr h hleap.2), Int.natCast_zero, Int.add_zero]

/-- Who starts inside has the rest of it to go before the next second begins. -/
theorem elapsed_of_le (h : second ≤ t.nanos) :
    t.elapsed later = (later.seconds - t.seconds) * second + (later.nanos - t.nanos)
      + if t.seconds < later.seconds then (second : Int) else 0 := by
  unfold elapsed
  by_cases hlt : t.seconds < later.seconds
  · rw [if_pos ⟨hlt, h⟩, if_pos hlt]
  · rw [if_neg (fun hleap => hlt hleap.1), if_neg hlt, Int.natCast_zero]

/-- The sum with a length of time is the instant that is so much later. -/
theorem add?_eq_some_iff : t.add? delta = some later ↔ t.IsAfter delta later := by
  have hdiv : (delta : Int).tdiv second = (delta / second : Nat) := rfl
  have hmod : (delta : Int).tmod second = (delta % second : Nat) := rfl
  have hnanos := t.nanos_lt
  have hlater := later.nanos_lt
  rw [isAfter_iff]
  unfold add?
  simp only [hdiv, hmod]
  by_cases houtside : t.nanos < second
  · rw [if_pos houtside, elapsed_of_lt houtside]
    unfold second at *
    -- A second may be carried, but none is borrowed.
    rw [if_neg (by omega)]
    split
    · rw [within?_eq_some_iff]
      omega
    · rw [within?_eq_some_iff]
      omega
  · rw [if_neg houtside, elapsed_of_le (Nat.not_lt.mp houtside)]
    unfold second at *
    split
    · -- The leap second is left behind, and it counts as the second before the next one.
      rw [if_neg (by omega)]
      split
      · rw [within?_eq_some_iff]
        omega
      · rw [within?_eq_some_iff]
        omega
    · -- The end of the leap second is not reached.
      rw [if_neg (by omega), within?_eq_some_iff]
      omega

/-- Where no instant is so much later, there is no sum. -/
theorem add?_eq_none_iff : t.add? delta = none ↔ ∀ later, ¬ t.IsAfter delta later := by
  rw [Option.eq_none_iff_forall_ne_some]
  simp only [ne_eq, add?_eq_some_iff]

/-! ### Reading back -/

/-- The instant that the text of an instant reads as. A leap second that does not end a minute has
the text of the second that follows it, with the same fraction. -/
def asRead (t : Instant) : Instant :=
  if h : second ≤ t.nanos ∧ t.seconds % 60 ≠ 59 then
    ⟨t.seconds + 1, t.nanos - second, Int.le_trans t.first_le (by omega),
      -- The last second of all ends a minute.
      by
        have hlast := t.le_last
        unfold lastSecond at hlast ⊢
        omega,
      Nat.lt_of_le_of_lt (Nat.sub_le _ _) t.nanos_lt⟩
  else t

/-- A regular instant reads back. -/
theorem asRead_of_isRegular (h : t.IsRegular) : t.asRead = t :=
  dif_neg fun hstray => hstray.2 (h hstray.1)

/-- The parts of what another instant reads as. -/
theorem asRead_of_stray (h : second ≤ t.nanos ∧ t.seconds % 60 ≠ 59) :
    t.asRead.seconds = t.seconds + 1 ∧ t.asRead.nanos = t.nanos - second := by
  rw [asRead, dif_pos h]
  exact ⟨rfl, rfl⟩

/-- An instant does not read as an earlier one. -/
theorem before_asRead (h : later.before t = true) : later.before t.asRead = true := by
  by_cases hregular : t.IsRegular
  · rw [asRead_of_isRegular hregular]
    exact h
  · obtain ⟨hleap, hend⟩ := Decidable.not_imp_iff_and_not.mp hregular
    obtain ⟨hseconds, -⟩ := asRead_of_stray ⟨hleap, hend⟩
    simp only [before, Bool.or_eq_true, Bool.and_eq_true, decide_eq_true_eq] at h ⊢
    exact .inl (by omega)

/-- What is read is regular. -/
theorem isRegular_asRead (t : Instant) : t.asRead.IsRegular := by
  by_cases h : t.IsRegular
  · rw [asRead_of_isRegular h]
    exact h
  · -- It is behind the leap second, so it is in none.
    obtain ⟨hleap, hend⟩ := Decidable.not_imp_iff_and_not.mp h
    have hlt := t.nanos_lt
    intro hagain
    rw [(asRead_of_stray ⟨hleap, hend⟩).2] at hagain
    omega

end Custody.Time.Instant
