/-!
# `Custody.Time.Calendar`: dates of the Gregorian calendar

The calendar reaches back before its introduction, with a year zero. Days are counted from
1 January of year 1. The year of a day is first estimated from the average length of a year and
then corrected by one where the estimate is off.
-/

set_option autoImplicit false

namespace Custody.Time

/-- Whether a year has a 29 February. -/
def isLeapYear (year : Int) : Bool :=
  year % 4 = 0 && (year % 100 ≠ 0 || year % 400 = 0)

/-- The day on which a year starts. -/
def yearStart (year : Int) : Int :=
  let y := year - 1
  365 * y + y / 4 - y / 100 + y / 400

/-- The year of a day. 146097 days are 400 years. -/
def yearOfDay (day : Int) : Int :=
  let year := 400 * day / 146097 + 1
  if day < yearStart year then year - 1
  else if yearStart (year + 1) ≤ day then year + 1
  else year

/-- The lengths of the months of a year. -/
def monthLengths (leap : Bool) : List Nat :=
  [31, if leap then 29 else 28, 31, 30, 31, 30, 31, 31, 30, 31, 30, 31]

/-- A date, whether or not there is such a day. -/
structure Date where
  year : Int
  month : Nat
  day : Nat
  deriving DecidableEq, Repr

/-- Month and day of month of a day of the year, both from 1 on; `month` is the number of the
month with which the list of lengths starts. -/
def monthDay (month : Nat) : (lengths : List Nat) → (day : Nat) → Nat × Nat
  | [], day => (month, day + 1)
  | length :: rest, day =>
    if day < length then (month, day + 1) else monthDay (month + 1) rest (day - length)

/-- The date of a day. -/
def Date.ofDay (day : Int) : Date :=
  let year := yearOfDay day
  let (month, dayOfMonth) :=
    monthDay 1 (monthLengths (isLeapYear year)) (day - yearStart year).toNat
  ⟨year, month, dayOfMonth⟩

/-- How many days there are before a month of the year. -/
def daysBefore (lengths : List Nat) (month : Nat) : Nat :=
  (lengths.take (month - 1)).foldr (· + ·) 0

/-- The day of a date, if the calendar has it. -/
def Date.toDay? (date : Date) : Option Int :=
  let lengths := monthLengths (isLeapYear date.year)
  if 1 ≤ date.month ∧ date.month ≤ 12 ∧ 1 ≤ date.day
      ∧ date.day ≤ lengths.getD (date.month - 1) 0 then
    some (yearStart date.year + (daysBefore lengths date.month + (date.day - 1) : Nat))
  else none

end Custody.Time
