import Custody.Proofs.Time.Calendar
import Custody.Proofs.Time.Instant
import Custody.Time.Timestamp

/-!
# `Custody.Proofs.Time.Timestamp`: the text of an instant reads back

`Timestamp.parse?_render_of_isRegular`: every regular instant comes back from its text, with years
of more than four digits, years before zero, every fraction of a second, and leap seconds. A leap
second that does not end a minute has the text of the next second (`render_asRead`), so it is that
second that comes back (`parse?_render`). No text gives such a leap second
(`isRegular_of_parse?`), and what was read once is never changed again by being written.

The reader is lenient and the writer is not, so each field is a small lemma that holds whatever
follows: the digits of a number are followed by something that is no digit, and nothing that is
written begins with a blank.
-/

set_option autoImplicit false

namespace Custody.Time.Timestamp

open Text (isBlank trimStart)

/-! ### Digits -/

/-- What follows a number does not go on with it. -/
def Stops (cs : List Char) : Prop := ∀ c ∈ cs.head?, c.isDigit = false

/-- A character that is no digit ends a number. -/
theorem stops_cons {c : Char} (h : c.isDigit = false) (cs : List Char) : Stops (c :: cs) := by
  intro d hd
  cases hd
  exact h

/-- Written digits are digits. -/
theorem isDigit_padded (width n : Nat) : ∀ c ∈ padded width n, c.isDigit = true := by
  intro c hc
  rcases List.mem_append.mp hc with hc | hc
  · rw [List.eq_of_mem_replicate hc]
    rfl
  · exact Nat.isDigit_of_mem_toDigits (by decide) (by decide) hc

/-- A number that has at most `width` digits is written with exactly `width`. -/
theorem length_padded (width n : Nat) (hn : (Nat.toDigits 10 n).length ≤ width) :
    (padded width n).length = width := by
  simp only [padded, List.length_append, List.length_replicate]
  omega

/-- A number below one hundred is written with two digits. -/
theorem length_padded_two (n : Nat) (hn : n < 100) : (padded 2 n).length = 2 :=
  length_padded 2 n ((Nat.length_toDigits_le_iff (by decide) (by decide)).mpr hn)

/-- A number below ten thousand is written with four digits. -/
theorem length_padded_four (n : Nat) (hn : n < 10000) : (padded 4 n).length = 4 :=
  length_padded 4 n ((Nat.length_toDigits_le_iff (by decide) (by decide)).mpr hn)

/-- Padding with zeros does not change the number. -/
theorem ofDigits_padded (width n : Nat) : ofDigits (padded width n) = n := by
  have hfold : ∀ cs, ofDigits cs = Nat.ofDigitChars 10 cs 0 := fun _ => rfl
  simp only [hfold, padded, Nat.ofDigitChars_append, Nat.ofDigitChars_replicate_zero,
    Nat.mul_zero, Nat.ofDigitChars_ten_toDigits]

/-- There is at least one digit. -/
theorem padded_eq_cons (width n : Nat) : ∃ c cs, padded width n = c :: cs := by
  cases h : padded width n with
  | nil =>
      have hlength := congrArg List.length h
      have hpos := Nat.length_toDigits_pos (b := 10) (n := n)
      simp only [padded, List.length_append, List.length_nil] at hlength
      omega
  | cons c cs => exact ⟨c, cs, rfl⟩

/-- A run of digits is taken whole, where it is not too long and nothing goes on with it. -/
theorem takeDigits_append (digits rest : List Char) (max : Nat)
    (hdigits : ∀ c ∈ digits, c.isDigit = true) (hmax : digits.length ≤ max)
    (hrest : digits.length = max ∨ Stops rest) :
    takeDigits max (digits ++ rest) = (digits, rest) := by
  induction digits generalizing max with
  | nil =>
      -- No digits are left. Reading stops because none is wanted, or because none
      -- follows.
      rcases hrest with hfull | hstops
      · subst hfull
        rfl
      · cases max with
        | zero => rfl
        | succ max =>
            cases rest with
            | nil => rfl
            | cons c rest =>
                have hc := hstops c rfl
                simp [takeDigits, hc]
  | cons c digits ih =>
      cases max with
      | zero => simp at hmax
      | succ max =>
          simp only [List.length_cons, Nat.add_le_add_iff_right, Nat.add_right_cancel_iff]
            at hmax hrest
          rw [List.cons_append, takeDigits, if_pos (hdigits c List.mem_cons_self),
            ih max (fun d hd => hdigits d (List.mem_cons_of_mem _ hd)) hmax hrest]

/-- A written number is read. -/
theorem number?_padded (width n max : Nat) (rest : List Char)
    (hmax : (padded width n).length ≤ max)
    (hrest : (padded width n).length = max ∨ Stops rest) :
    number? max (padded width n ++ rest) = some (n, rest) := by
  unfold number?
  rw [takeDigits_append _ rest max (isDigit_padded width n) hmax hrest]
  obtain ⟨c, cs, h⟩ := padded_eq_cons width n
  rw [h]
  show some (ofDigits (c :: cs), rest) = _
  rw [← h, ofDigits_padded]

/-- A digit is no blank. -/
theorem isBlank_of_isDigit {c : Char} (h : c.isDigit = true) : isBlank c = false := by
  have hrange : 48 ≤ c.toNat ∧ c.toNat ≤ 57 := by
    simpa [Char.isDigit, UInt32.le_iff_toNat_le] using h
  simp only [isBlank, Bool.or_eq_false_iff, Bool.and_eq_false_iff, decide_eq_false_iff_not]
  omega

/-- What does not begin with a blank is not trimmed. -/
theorem trimStart_cons {c : Char} (h : isBlank c = false) (cs : List Char) :
    trimStart (c :: cs) = c :: cs := by
  rw [trimStart, List.dropWhile_cons_of_neg (by simp [h])]

/-- A written number is not trimmed. -/
theorem trimStart_padded (width n : Nat) (rest : List Char) :
    trimStart (padded width n ++ rest) = padded width n ++ rest := by
  obtain ⟨c, cs, h⟩ := padded_eq_cons width n
  have hc := isDigit_padded width n c (by rw [h]; exact List.mem_cons_self)
  rw [h, List.cons_append, trimStart_cons (isBlank_of_isDigit hc)]

/-! ### Fields -/

/-- A field of two digits is read. -/
theorem twoDigits?_padded (low high n : Nat) (hlow : low ≤ n) (hhigh : n ≤ high)
    (hn : n < 100) (rest : List Char) :
    twoDigits? low high (padded 2 n ++ rest) = some (n, rest) := by
  have hlength := length_padded_two n hn
  unfold twoDigits?
  rw [trimStart_padded, number?_padded 2 n 2 rest (by omega) (Or.inl hlength)]
  show (if low ≤ n ∧ n ≤ high then some (n, rest) else none) = _
  rw [if_pos ⟨hlow, hhigh⟩]

/-- A separator is read. -/
theorem separator?_cons {c : Char} (h : isBlank c = false) (rest : List Char) :
    separator? c (c :: rest) = some rest := by
  rw [separator?, trimStart_cons h]
  exact if_pos rfl

/-- Four digits without a sign are read as a year. -/
theorem year?_padded (n : Nat) (hn : n < 10000) (rest : List Char) :
    year? (padded 4 n ++ rest) = some ((n : Int), rest) := by
  have hlength := length_padded_four n hn
  have hread := number?_padded 4 n 4 rest (by omega) (Or.inl hlength)
  -- The first character is a digit, so it is no sign.
  obtain ⟨c, cs, hcons⟩ := padded_eq_cons 4 n
  have hdigit := isDigit_padded 4 n c (by rw [hcons]; exact List.mem_cons_self)
  unfold year?
  rw [trimStart_padded]
  rw [hcons, List.cons_append] at hread ⊢
  split
  · rename_i heq
    cases heq
    simp at hdigit
  · rename_i heq
    cases heq
    simp at hdigit
  · rw [hread]
    rfl

/-- A year is read, whatever its sign and however many digits it has. -/
theorem year?_renderYear (year : Int) (rest : List Char) (hrest : Stops rest) :
    year? (renderYear year ++ rest) = some (year, rest) := by
  unfold renderYear
  split
  · rename_i hrange
    rw [year?_padded year.toNat (by omega), Int.toNat_of_nonneg hrange.1]
  · -- After a sign, the digits go on to the first that is none.
    have hread := number?_padded 4 year.natAbs (padded 4 year.natAbs ++ rest).length rest
      (by rw [List.length_append]; omega) (Or.inr hrest)
    unfold year?
    rw [List.cons_append]
    by_cases hneg : year < 0
    · rw [if_pos hneg, trimStart_cons (by decide)]
      simp only [hread, Option.map_some]
      congr 2
      omega
    · rw [if_neg hneg, trimStart_cons (by decide)]
      simp only [hread, Option.map_some]
      congr 2
      omega

/-- A date is read. -/
theorem date?_render (date : Date) (hmonth : 1 ≤ date.month ∧ date.month ≤ 12)
    (hday : 1 ≤ date.day ∧ date.day ≤ 31) (rest : List Char) :
    date? (renderYear date.year ++ '-' :: (padded 2 date.month ++ '-' :: (padded 2 date.day
      ++ rest))) = some (date, rest) := by
  have hdash : isBlank '-' = false := by decide
  unfold date?
  rw [year?_renderYear _ _ (stops_cons (by decide) _)]
  simp only [Option.bind_eq_bind, Option.bind_some]
  rw [separator?_cons hdash, Option.bind_some,
    twoDigits?_padded 1 12 _ hmonth.1 hmonth.2 (by omega), Option.bind_some,
    separator?_cons hdash, Option.bind_some,
    twoDigits?_padded 1 31 _ hday.1 hday.2 (by omega), Option.bind_some]

/-- The zeros that fill up a fraction count as its last digits. -/
theorem ofDigits_append_zeros (digits : List Char) (count : Nat) :
    ofDigits (digits ++ List.replicate count '0') = Nat.pow 10 count * ofDigits digits := by
  have hfold : ∀ cs, ofDigits cs = Nat.ofDigitChars 10 cs 0 := fun _ => rfl
  rw [hfold, Nat.ofDigitChars_append, Nat.ofDigitChars_replicate_zero, ← hfold]
  rfl

/-- A point and `width` digits are read as a fraction of a second. -/
theorem fraction?_padded (width n : Nat) (hwidth : width ≤ 9)
    (hlength : (padded width n).length = width) {c : Char} (hc : c.isDigit = false)
    (rest : List Char) :
    fraction? ('.' :: (padded width n ++ c :: rest))
      = some (Nat.pow 10 (9 - width) * n, c :: rest) := by
  obtain ⟨d, ds, hcons⟩ := padded_eq_cons width n
  have htake := takeDigits_append (padded width n) (c :: rest) 9 (isDigit_padded width n)
    (by omega) (Or.inr (stops_cons hc rest))
  have hvalue := ofDigits_append_zeros (padded width n) (9 - width)
  rw [ofDigits_padded] at hvalue
  rw [hcons] at htake hvalue hlength ⊢
  rw [fraction?, htake]
  simp only [hlength, hvalue]
  rw [List.dropWhile_cons_of_neg (by simp [hc])]

/-- A fraction of a second is read. -/
theorem fraction?_renderFraction (nanos : Nat) (hnanos : nanos < second) {c : Char}
    (hc : c.isDigit = false) (hpoint : c ≠ '.') (rest : List Char) :
    fraction? (renderFraction nanos ++ c :: rest) = some (nanos, c :: rest) := by
  unfold second at hnanos
  unfold renderFraction
  split
  · -- Nothing is written, and what comes next is no point.
    subst nanos
    rw [List.nil_append, fraction?]
    rintro cs h
    cases h
    exact hpoint rfl
  split
  · have hlength := length_padded 3 (nanos / 1000000)
      ((Nat.length_toDigits_le_iff (by decide) (by decide)).mpr (by omega))
    rw [List.cons_append, fraction?_padded 3 _ (by decide) hlength hc]
    congr 2
    show 1000000 * (nanos / 1000000) = nanos
    omega
  split
  · have hlength := length_padded 6 (nanos / 1000)
      ((Nat.length_toDigits_le_iff (by decide) (by decide)).mpr (by omega))
    rw [List.cons_append, fraction?_padded 6 _ (by decide) hlength hc]
    congr 2
    show 1000 * (nanos / 1000) = nanos
    omega
  · have hlength := length_padded 9 nanos
      ((Nat.length_toDigits_le_iff (by decide) (by decide)).mpr (by omega))
    rw [List.cons_append, fraction?_padded 9 _ (by decide) hlength hc]
    congr 2
    show 1 * nanos = nanos
    omega

/-- A time of day is read; second 60 is a leap second. -/
theorem timeOfDay?_render (ofDay leap nanos : Nat) (hday : ofDay < 86400)
    (hleap : leap = 0 ∨ leap = 1 ∧ ofDay % 60 = 59) (hnanos : nanos < second) {c : Char}
    (hc : c.isDigit = false) (hpoint : c ≠ '.') (rest : List Char) :
    timeOfDay? (padded 2 (ofDay / 3600) ++ ':' :: (padded 2 (ofDay / 60 % 60)
      ++ ':' :: (padded 2 (ofDay % 60 + leap) ++ (renderFraction nanos ++ c :: rest))))
      = some ((ofDay, leap * second + nanos), c :: rest) := by
  have hcolon : isBlank ':' = false := by decide
  have hsec : ofDay % 60 + leap ≤ 60 := by omega
  unfold timeOfDay?
  simp only [Option.bind_eq_bind]
  rw [twoDigits?_padded 0 23 _ (by omega) (by omega) (by omega), Option.bind_some,
    separator?_cons hcolon, Option.bind_some,
    twoDigits?_padded 0 59 _ (by omega) (by omega) (by omega), Option.bind_some,
    separator?_cons hcolon, Option.bind_some,
    twoDigits?_padded 0 60 _ (by omega) hsec (by omega), Option.bind_some,
    fraction?_renderFraction nanos hnanos hc hpoint, Option.bind_some]
  have hleap' : (ofDay % 60 + leap) / 60 = leap := by omega
  simp only [hleap']
  congr 3
  omega

/-- A second of nanoseconds or more is a leap second, and those end a minute. -/
theorem leap_cases {t : Instant} (h : t.IsRegular) :
    t.nanos / second = 0
      ∨ t.nanos / second = 1 ∧ (t.seconds % 86400).toNat % 60 = 59 := by
  have hnanos := t.nanos_lt
  rcases Nat.lt_or_ge t.nanos second with hlt | hge
  · exact Or.inl (Nat.div_eq_of_lt hlt)
  · have hlast := h hge
    unfold second at hge hnanos ⊢
    omega

/-- The text of a regular instant gives that instant. -/
theorem parse?_render_of_isRegular {t : Instant} (h : t.IsRegular) :
    parse? (render t) = some t := by
  have hfirst := t.first_le
  have hlast := t.le_last
  obtain ⟨hmonth, hmonth', hday, hday'⟩ :=
    Date.ofDay_bounds (t.seconds / 86400 + epochDay)
  have hdate := date?_render (Date.ofDay (t.seconds / 86400 + epochDay)) ⟨hmonth, hmonth'⟩
    ⟨hday, hday'⟩
  have htime := timeOfDay?_render (t.seconds % 86400).toNat (t.nanos / second)
    (t.nanos % second) (by omega) (leap_cases h) (Nat.mod_lt _ (by decide)) (c := 'Z')
    (by decide) (by decide) []
  have hparts : t.nanos / second * second + t.nanos % second = t.nanos := by
    rw [Nat.mul_comm]
    exact Nat.div_add_mod t.nanos second
  have hwall : (t.seconds / 86400 + epochDay - epochDay) * 86400
      + ((t.seconds % 86400).toNat : Int) = t.seconds := by omega
  unfold parse? render
  rw [String.toList_ofList]
  simp only [renderLocal, List.append_assoc, List.cons_append, Option.bind_eq_bind]
  rw [hdate, Option.bind_some]
  simp only [Option.bind_some]
  rw [if_pos (by decide), htime, Option.bind_some]
  simp only [Date.toDay?_ofDay, hparts]
  -- The zone is written as `Z`, which is no offset.
  rw [trimStart_cons (by decide)]
  simp only [zone?, Option.bind_some]
  rw [if_neg (by decide)]
  simp only [hwall]
  rw [if_neg (by omega)]
  simp only [Int.sub_zero]
  exact Instant.ofParts?_eq_some_iff.mpr ⟨rfl, rfl, h⟩

/-! ### Leap seconds inside a minute -/

/-- An instant and the instant that it reads as have one text. -/
theorem render_asRead (t : Instant) : render t.asRead = render t := by
  by_cases h : t.IsRegular
  · rw [Instant.asRead_of_isRegular h]
  · obtain ⟨hleap, hend⟩ := Decidable.not_imp_iff_and_not.mp h
    obtain ⟨hseconds, hnanos⟩ := Instant.asRead_of_stray ⟨hleap, hend⟩
    have hlt := t.nanos_lt
    -- The next second is in the same minute, and the fraction is the same.
    have hday : (t.seconds + 1) / 86400 = t.seconds / 86400 := by omega
    have hhour : ((t.seconds + 1) % 86400).toNat / 3600
        = (t.seconds % 86400).toNat / 3600 := by omega
    have hminute : ((t.seconds + 1) % 86400).toNat / 60 % 60
        = (t.seconds % 86400).toNat / 60 % 60 := by omega
    have hsecond : ((t.seconds + 1) % 86400).toNat % 60 + (t.nanos - second) / second
        = (t.seconds % 86400).toNat % 60 + t.nanos / second := by
      unfold second at hleap hlt ⊢
      omega
    have hfraction : (t.nanos - second) % second = t.nanos % second := by
      unfold second at hleap hlt ⊢
      omega
    simp only [render, renderLocal, hseconds, hnanos, hday, hhour, hminute, hsecond, hfraction]

/-- The text of an instant gives the instant that it reads as. -/
theorem parse?_render (t : Instant) : parse? (render t) = some t.asRead := by
  rw [← render_asRead, parse?_render_of_isRegular t.isRegular_asRead]

/-- Every text gives a regular instant, if any. -/
theorem isRegular_of_parse? {text : String} {t : Instant} (h : parse? text = some t) :
    t.IsRegular := by
  unfold parse? at h
  simp only [Option.bind_eq_bind] at h
  obtain ⟨⟨date, cs⟩, -, h⟩ := Option.bind_eq_some_iff.mp h
  -- Only what follows the separator of date and time can give an instant.
  split at h <;> try split at h
  all_goals simp only [Option.bind_none, Option.bind_some, reduceCtorEq] at h
  obtain ⟨time, -, h⟩ := Option.bind_eq_some_iff.mp h
  obtain ⟨zone, -, h⟩ := Option.bind_eq_some_iff.mp h
  split at h
  · cases h
  obtain ⟨day, -, h⟩ := Option.bind_eq_some_iff.mp h
  split at h
  · cases h
  exact (Instant.ofParts?_eq_some_iff.mp h).2.2

end Custody.Time.Timestamp
