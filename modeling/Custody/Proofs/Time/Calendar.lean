import Custody.Time.Calendar

/-!
# `Custody.Proofs.Time.Calendar`: every day has a date, and the date gives the day

`Date.toDay?_ofDay` holds for all days there are, before year zero as well as after it. Two
facts carry it. The estimate in `yearOfDay` is off by at most one year, so the corrected year
is the one that holds the day (`yearOfDay_bounds`). And within a year the lengths of the months
are used up in the order in which they are added up again (`monthDay_spec`).
-/

set_option autoImplicit false

namespace Custody.Time

/-- A leap year is one day longer than another year. -/
theorem yearStart_succ (year : Int) :
    yearStart (year + 1) = yearStart year + if isLeapYear year then 366 else 365 := by
  have hleap : isLeapYear year = true
      ↔ year % 4 = 0 ∧ (year % 100 ≠ 0 ∨ year % 400 = 0) := by
    simp [isLeapYear]
  simp only [yearStart]
  split
  · have h := hleap.mp ‹_›
    omega
  · have h := mt hleap.mpr ‹_›
    omega

/-- The estimate from the average length of a year is off by one year at most. -/
theorem yearStart_estimate (day : Int) :
    yearStart (400 * day / 146097) ≤ day ∧ day < yearStart (400 * day / 146097 + 3) := by
  simp only [yearStart]
  omega

/-- The year of a day holds the day. -/
theorem yearOfDay_bounds (day : Int) :
    yearStart (yearOfDay day) ≤ day ∧ day < yearStart (yearOfDay day + 1) := by
  obtain ⟨hlow, hhigh⟩ := yearStart_estimate day
  unfold yearOfDay
  simp only
  split
  · -- The estimate may be a year late, a year early, or right; here it is a year late.
    rw [Int.add_sub_cancel]
    exact ⟨hlow, ‹_›⟩
  split
  · refine ⟨‹_›, ?_⟩
    rw [Int.add_assoc, Int.add_assoc]
    exact hhigh
  · exact ⟨by omega, by omega⟩

/-- A day of the year is found in a month of the list, after all days of the months before. -/
theorem monthDay_spec (lengths : List Nat) (month day : Nat)
    (h : day < lengths.foldr (· + ·) 0) :
    ∃ i dayOfMonth, monthDay month lengths day = (month + i, dayOfMonth + 1)
      ∧ i < lengths.length ∧ dayOfMonth < lengths.getD i 0
      ∧ (lengths.take i).foldr (· + ·) 0 + dayOfMonth = day := by
  induction lengths generalizing month day with
  | nil => simp at h
  | cons length rest ih =>
      rw [monthDay]
      split
      · exact ⟨0, day, rfl, by simp, by simpa, by simp⟩
      · rw [List.foldr_cons] at h
        -- The days of this month are used up, and the rest of the year goes on from the
        -- next.
        obtain ⟨i, dayOfMonth, hmonth, hi, hday, hsum⟩ := ih (month + 1) (day - length) (by omega)
        refine ⟨i + 1, dayOfMonth, ?_, by simpa using hi, by simpa using hday, ?_⟩
        · rw [hmonth, Nat.add_assoc, Nat.add_comm 1 i]
        · rw [List.take_succ_cons, List.foldr_cons]
          omega

/-- The date of a day is in the calendar, and it is the date of that day. -/
theorem Date.toDay?_ofDay (day : Int) : (Date.ofDay day).toDay? = some day := by
  obtain ⟨hlow, hhigh⟩ := yearOfDay_bounds day
  rw [yearStart_succ] at hhigh
  -- The months of the year have all its days.
  have htotal : (day - yearStart (yearOfDay day)).toNat
      < (monthLengths (isLeapYear (yearOfDay day))).foldr (· + ·) 0 := by
    cases hleap : isLeapYear (yearOfDay day) <;> rw [hleap] at hhigh
    · show _ < 365
      simp at hhigh
      omega
    · show _ < 366
      simp at hhigh
      omega
  obtain ⟨i, dayOfMonth, hmonth, hi, hday, hsum⟩ := monthDay_spec _ 1 _ htotal
  have hlength : (monthLengths (isLeapYear (yearOfDay day))).length = 12 := rfl
  have hdate : Date.ofDay day = ⟨yearOfDay day, 1 + i, dayOfMonth + 1⟩ := by
    simp only [Date.ofDay, hmonth]
  rw [hdate, Date.toDay?]
  simp only [Nat.add_sub_cancel_left, Nat.add_sub_cancel, daysBefore]
  rw [if_pos ⟨by omega, by omega, by omega, by omega⟩, hsum]
  congr 1
  omega

/-- The month and the day of the month of a date have two digits. -/
theorem Date.ofDay_bounds (day : Int) :
    1 ≤ (Date.ofDay day).month ∧ (Date.ofDay day).month ≤ 12
      ∧ 1 ≤ (Date.ofDay day).day ∧ (Date.ofDay day).day ≤ 31 := by
  have h := Date.toDay?_ofDay day
  rw [Date.toDay?] at h
  split at h
  · rename_i hvalid
    obtain ⟨hmonth, hmonth', hday, hday'⟩ := hvalid
    -- No month has more than 31 days.
    have hlongest : ∀ leap, ∀ i < 12, (monthLengths leap).getD i 0 ≤ 31 := by decide
    exact ⟨hmonth, hmonth', hday, Nat.le_trans hday' (hlongest _ _ (by omega))⟩
  · cases h

end Custody.Time
