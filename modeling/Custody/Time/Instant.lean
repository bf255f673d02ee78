/-!
# `Custody.Time.Instant`: points in time

An instant is a number of seconds since the start of 1970, without leap seconds, and a part of
a second in nanoseconds. A leap second is the second half of a second that is two seconds long:
there the nanoseconds go on beyond one thousand million. Instants reach from year -262143 to
year 262142; sums outside have no value.

Leap seconds belong at the end of a minute (`IsRegular`), and nothing that is read from a text or
made of numbers (`ofParts?`) has one elsewhere. But the type does not rule them out: a clock can be
set to one, and a short way from there leads to another (`add?`).
-/

set_option autoImplicit false

namespace Custody.Time

/-- Nanoseconds of a second. -/
def second : Nat := 1000000000

/-- The first second: 1 January -262143. -/
def firstSecond : Int := -8334601228800

/-- The last second: 31 December 262142, 23:59:59. -/
def lastSecond : Int := 8210266876799

/-- A point in time. -/
structure Instant where
  seconds : Int
  nanos : Nat
  first_le : firstSecond ≤ seconds
  le_last : seconds ≤ lastSecond
  nanos_lt : nanos < 2 * second
  deriving DecidableEq

namespace Instant

/-- Inside a leap second, if at all, at the end of a minute. -/
def IsRegular (t : Instant) : Prop := second ≤ t.nanos → t.seconds % 60 = 59

/-- Two comparisons decide it. -/
instance (t : Instant) : Decidable t.IsRegular :=
  inferInstanceAs (Decidable (second ≤ t.nanos → t.seconds % 60 = 59))

/-- The instant with these parts, if there is one. -/
def within? (seconds : Int) (nanos : Nat) : Option Instant :=
  if h : firstSecond ≤ seconds ∧ seconds ≤ lastSecond ∧ nanos < 2 * second then
    some ⟨seconds, nanos, h.1, h.2.1, h.2.2⟩
  else none

/-- The regular instant with these parts, if there is one. -/
def ofParts? (seconds : Int) (nanos : Nat) : Option Instant :=
  if second ≤ nanos ∧ seconds % 60 ≠ 59 then none else within? seconds nanos

/-- The start of 1970. -/
def epoch : Instant := ⟨0, 0, by decide, by decide, by decide⟩

/-- The last instant outside a leap second. -/
def last : Instant := ⟨lastSecond, second - 1, by decide, by decide, by decide⟩

/-- Earlier: by the second, then by its part. -/
def before (a b : Instant) : Bool :=
  a.seconds < b.seconds || (a.seconds = b.seconds && a.nanos < b.nanos)

/-- The instant `delta` nanoseconds later, or earlier if negative. Going on from inside a leap
second, the leap second is left behind as soon as the second or its end is passed. -/
def add? (t : Instant) (delta : Int) : Option Instant :=
  let seconds := delta.tdiv second
  let nanos := delta.tmod second
  -- At most one second is carried, to either side.
  let carry (s n : Int) : Option Instant :=
    if n < 0 then within? (s - 1) (n + second).toNat
    else if n < second then within? s n.toNat
    else within? (s + 1) (n - second).toNat
  if t.nanos < second then carry (t.seconds + seconds) (t.nanos + nanos)
  else if 0 < seconds ∨ (0 < nanos ∧ 2 * second ≤ t.nanos + nanos) then
    carry (t.seconds + seconds) (t.nanos - second + nanos)
  else if seconds < 0 then carry (t.seconds + 1 + seconds) (t.nanos - second + nanos)
  else within? t.seconds (t.nanos + nanos).toNat

end Instant

/-- A length of time that is not negative, in nanoseconds. -/
structure Span where
  nanos : Nat
  deriving DecidableEq, Repr

namespace Span

/-- A number of whole seconds. -/
def ofSeconds (n : Nat) : Span := ⟨n * second⟩

/-- The whole seconds in it. -/
def wholeSeconds (span : Span) : Nat := span.nanos / second

/-- What is left beside the whole seconds, in nanoseconds. -/
def subsecond (span : Span) : Nat := span.nanos % second

end Span

end Custody.Time
