/-!
# `Custody.Ticker.Interval`: callbacks that run as time passes

Here a callback runs by itself, once at the end of every period that has passed since it came.
A period that ends at the very end of a stretch of time counts as passed. No period is shorter
than a millisecond, and nobody waits for longer than thirty years at a time. A ticker that has
stopped runs nothing more, but it still says how often each callback has run.
-/

set_option autoImplicit false

namespace Custody.Ticker

/-- A callback that runs every `period` milliseconds, and how often it has run. -/
structure Interval where
  period : Nat
  since : Nat
  runs : Nat
  isActive : Bool
  deriving DecidableEq, Repr

/-- The shortest period, in milliseconds. -/
def minPeriod : Nat := 1

/-- The longest wait, in milliseconds: thirty years of 365 days. -/
def longestWait : Nat := 30 * 365 * 24 * 60 * 60 * 1000

/-- The time in milliseconds, and all callbacks that ever came. A ticker that is closed takes
none that would run. -/
structure Timeline where
  now : Nat
  isOpen : Bool
  intervals : List Interval
  deriving DecidableEq, Repr

namespace Interval

/-- The callback at a later time. -/
def runUntil (interval : Interval) (now : Nat) : Interval :=
  if interval.isActive then { interval with runs := (now - interval.since) / interval.period }
  else interval

/-- The callback as it is once it has been stopped. -/
def stop (interval : Interval) : Interval := { interval with isActive := false }

end Interval

namespace Timeline

/-- An open ticker at the start of time. -/
def start : Timeline := ⟨0, true, []⟩

/-- Adds a callback; its first period starts now. -/
def every (timeline : Timeline) (period : Nat) : Timeline :=
  { timeline with intervals := timeline.intervals
      ++ [⟨min (max period minPeriod) longestWait, timeline.now, 0, timeline.isOpen⟩] }

/-- Lets time pass. -/
def sleep (timeline : Timeline) (duration : Nat) : Timeline :=
  let now := timeline.now + min duration longestWait
  { timeline with now, intervals := timeline.intervals.map (·.runUntil now) }

/-- Stops all callbacks. -/
def stop (timeline : Timeline) : Timeline :=
  { timeline with intervals := timeline.intervals.map Interval.stop }

/-- Stops all callbacks and takes no more. -/
def close (timeline : Timeline) : Timeline := { timeline.stop with isOpen := false }

/-- Starts over without callbacks that run. -/
def renew (timeline : Timeline) : Timeline := { timeline.stop with isOpen := true }

/-- How often each callback has run. -/
def counts (timeline : Timeline) : List Nat := timeline.intervals.map Interval.runs

/-- The number of callbacks that still run, while the ticker is open. -/
def active? (timeline : Timeline) : Option Nat :=
  if timeline.isOpen then some (timeline.intervals.filter Interval.isActive).length else none

end Timeline

end Custody.Ticker
