import Custody.Wallet

/-!
# `Custody.Ticker`: callbacks that run when told to

A session that has expired stays in the store until somebody looks at it. A ticker does the
looking for a wallet that nobody uses: it holds callbacks, each with the period at which it
wants to run, and `fire` runs each of them once, in the order in which they came.
-/

set_option autoImplicit false

namespace Custody

open Time

/-- A callback and the period at which it wants to run. -/
structure Callback where
  period : Span
  run : Command Unit

/-- The callbacks, earliest first. -/
structure Ticker where
  callbacks : List Callback

namespace Ticker

/-- A ticker without callbacks. -/
def empty : Ticker := ⟨[]⟩

/-- Adds a callback. -/
def every (ticker : Ticker) (period : Span) (run : Command Unit) : Ticker :=
  ⟨ticker.callbacks ++ [⟨period, run⟩]⟩

/-- The world after every callback has run once. What a callback answers is nobody's concern. -/
def fire (ticker : Ticker) (world : World) : World :=
  ticker.callbacks.foldl (fun world callback => (callback.run.runIn world).2) world

/-- The number of callbacks. -/
def size (ticker : Ticker) : Nat := ticker.callbacks.length

/-- The periods of the callbacks. -/
def periods (ticker : Ticker) : List Span := ticker.callbacks.map Callback.period

end Ticker

namespace Wallet

/-- How often the session is looked at. -/
def autoLockPeriod : Span := .ofSeconds 60

/-- Looks at the session, which removes it if it has expired. -/
def autoLock : Command Unit := discard isUnlocked

/-- Has a ticker look at the session. -/
def startAutoLock (ticker : Ticker) : Ticker := ticker.every autoLockPeriod autoLock

end Wallet

end Custody
