import Custody.Text.Blank
import Custody.Time.Calendar
import Custody.Time.Instant

/-!
# `Custody.Time.Timestamp`: instants as text

An instant is written as date, `T`, time of day and zone. The fraction of a second is left out
where it is zero and else has three, six or nine digits, the fewest that are exact; a leap
second is second 60; a year outside 0 to 9999 has a sign and at least four digits.

Reading (`parse?`) is more lenient: numbers may have fewer digits, blanks may stand before
numbers and separators, the fraction may have any number of digits, of which nine count, and
the zone may be any offset of less than a day.
-/

set_option autoImplicit false

namespace Custody.Time.Timestamp

open Text (isBlank trimStart)

/-- The day on which 1970 starts. -/
def epochDay : Int := 719162

/-- The decimal digits of a number, filled up with zeros to a width. -/
def padded (width n : Nat) : List Char :=
  let digits := Nat.toDigits 10 n
  List.replicate (width - digits.length) '0' ++ digits

/-- A year. -/
def renderYear (year : Int) : List Char :=
  if 0 ≤ year ∧ year ≤ 9999 then padded 4 year.toNat
  else (if year < 0 then '-' else '+') :: padded 4 year.natAbs

/-- The fraction of a second, with its point. -/
def renderFraction (nanos : Nat) : List Char :=
  if nanos = 0 then []
  else if nanos % 1000000 = 0 then '.' :: padded 3 (nanos / 1000000)
  else if nanos % 1000 = 0 then '.' :: padded 6 (nanos / 1000)
  else '.' :: padded 9 nanos

/-- Date and time of day in universal time. -/
def renderLocal (t : Instant) : List Char :=
  let date := Date.ofDay (t.seconds / 86400 + epochDay)
  let ofDay := (t.seconds % 86400).toNat
  let leap := t.nanos / second
  renderYear date.year ++ '-' :: padded 2 date.month ++ '-' :: padded 2 date.day
    ++ 'T' :: padded 2 (ofDay / 3600) ++ ':' :: padded 2 (ofDay / 60 % 60)
    ++ ':' :: padded 2 (ofDay % 60 + leap) ++ renderFraction (t.nanos % second)

/-- The text of an instant as records keep it: the zone is `Z`. -/
def render (t : Instant) : String := String.ofList (renderLocal t ++ ['Z'])

/-- The text of an instant with the zone as an offset. -/
def renderOffset (t : Instant) : String :=
  String.ofList (renderLocal t ++ ['+', '0', '0', ':', '0', '0'])

/-! ### Reading -/

/-- The longest run of at most `max` digits, and the rest. -/
def takeDigits : (max : Nat) → List Char → List Char × List Char
  | 0, cs => ([], cs)
  | _ + 1, [] => ([], [])
  | max + 1, c :: cs =>
    if c.isDigit then
      let (digits, rest) := takeDigits max cs
      (c :: digits, rest)
    else ([], c :: cs)

/-- The number that decimal digits spell. -/
def ofDigits (digits : List Char) : Nat :=
  digits.foldl (fun n c => 10 * n + (c.toNat - 48)) 0

/-- A number of one to `max` digits. -/
def number? (max : Nat) (cs : List Char) : Option (Nat × List Char) :=
  match takeDigits max cs with
  | ([], _) => none
  | (digits, rest) => some (ofDigits digits, rest)

/-- A number of one or two digits within bounds, after blanks. -/
def twoDigits? (low high : Nat) (cs : List Char) : Option (Nat × List Char) := do
  let (n, rest) ← number? 2 (trimStart cs)
  if low ≤ n ∧ n ≤ high then some (n, rest) else none

/-- A separator, after blanks. -/
def separator? (c : Char) (cs : List Char) : Option (List Char) :=
  match trimStart cs with
  | x :: rest => if x = c then some rest else none
  | [] => none

/-- A year: up to four digits, or any number of them after a sign. -/
def year? (cs : List Char) : Option (Int × List Char) :=
  match trimStart cs with
  | '-' :: rest => (number? rest.length rest).map fun (n, rest) => (-(n : Int), rest)
  | '+' :: rest => (number? rest.length rest).map fun (n, rest) => ((n : Int), rest)
  | cs => (number? 4 cs).map fun (n, rest) => ((n : Int), rest)

/-- A date. -/
def date? (cs : List Char) : Option (Date × List Char) := do
  let (year, cs) ← year? cs
  let cs ← separator? '-' cs
  let (month, cs) ← twoDigits? 1 12 cs
  let cs ← separator? '-' cs
  let (day, cs) ← twoDigits? 1 31 cs
  some (⟨year, month, day⟩, cs)

/-- The fraction of a second in nanoseconds, where there is a point. -/
def fraction? : List Char → Option (Nat × List Char)
  | '.' :: cs =>
    match takeDigits 9 cs with
    | ([], _) => none
    | (digits, rest) =>
      let filled := digits ++ List.replicate (9 - digits.length) '0'
      some (ofDigits filled, rest.dropWhile Char.isDigit)
  | cs => some (0, cs)

/-- A time of day: seconds since midnight, and nanoseconds. Second 60 is the leap second that
follows second 59. -/
def timeOfDay? (cs : List Char) : Option ((Nat × Nat) × List Char) := do
  let (hour, cs) ← twoDigits? 0 23 cs
  let cs ← separator? ':' cs
  let (minute, cs) ← twoDigits? 0 59 cs
  let cs ← separator? ':' cs
  let (sec, cs) ← twoDigits? 0 60 cs
  let (nanos, cs) ← fraction? cs
  let leap := sec / 60
  some ((3600 * hour + 60 * minute + (sec - leap), leap * second + nanos), cs)

/-- Hours and minutes of an offset, in seconds. Any colons and blanks may stand between. -/
def offset? : List Char → Option (Nat × List Char)
  | a :: b :: cs =>
    if a.isDigit && b.isDigit then
      match cs.dropWhile (fun c => c = ':' || isBlank c) with
      | c :: d :: rest =>
        if c.isDigit && d.isDigit && ofDigits [c] < 6 then
          some (3600 * ofDigits [a, b] + 60 * ofDigits [c, d], rest)
        else none
      | _ => none
    else none
  | _ => none

/-- A zone, in seconds ahead of universal time. -/
def zone? (cs : List Char) : Option (Int × List Char) :=
  match cs with
  | 'Z' :: rest => some (0, rest)
  | 'z' :: rest => some (0, rest)
  | '+' :: rest => (offset? rest).map fun (n, rest) => ((n : Int), rest)
  | '-' :: rest => (offset? rest).map fun (n, rest) => (-(n : Int), rest)
  | '\u2212' :: rest => (offset? rest).map fun (n, rest) => (-(n : Int), rest)
  | a :: b :: c :: rest =>
    if [a, b, c].map Char.toUpper = ['U', 'T', 'C'] then some (0, rest) else none
  | _ => none

/-- The instant that a text gives. -/
def parse? (text : String) : Option Instant := do
  let (date, cs) ← date? text.toList
  let cs ← match cs with
    | c :: rest => if c = 'T' || c = 't' || c = ' ' then some rest else none
    | [] => none
  let ((secs, nanos), cs) ← timeOfDay? cs
  let (offset, cs) ← zone? (trimStart cs)
  if trimStart cs ≠ [] ∨ 86400 ≤ offset.natAbs then none
  let day ← date.toDay?
  -- The bounds hold for the clock on the wall as well as for the instant.
  let wall := (day - epochDay) * 86400 + secs
  if wall < firstSecond ∨ lastSecond < wall then none
  Instant.ofParts? (wall - offset) nanos

end Custody.Time.Timestamp
