import Custody.Record
import Custody.World

/-!
# `Custody.Session`: the unlocked wallet

A session is the private key and the instant at which it expires, kept in the store. It is
live strictly before that instant. Nothing removes it when its time comes; whoever looks at it
afterwards (`live`) finds it expired and removes it, and does the same with one that cannot be
read.

No session lasts longer than 36500 days, and none beyond the last instant there is.
-/

set_option autoImplicit false

namespace Custody

open Time Command
open Json.Value (required? text?)

/-- A private key in hexadecimal, and when it is forgotten. -/
structure Session where
  privateKey : String
  expiresAt : Instant
  deriving DecidableEq

namespace Session

/-- The longest that a session lasts. -/
def maxLength : Span := .ofSeconds (36500 * 86400)

/-- How long a session lasts that is configured for `length`. -/
def bounded (length : Span) : Span := ⟨min length.nanos maxLength.nanos⟩

/-- When a session expires that starts now. -/
def expiry (length : Span) (now : Instant) : Instant :=
  (now.add? (bounded length).nanos).getD Instant.last

/-- Whether its end is still to come. -/
def isLiveAt (session : Session) (now : Instant) : Bool := now.before session.expiresAt

/-- The session as it is stored. -/
def toJson (session : Session) : Json.Value :=
  .ofMembers [("privateKey", .text session.privateKey),
    ("expiresAt", .text (Timestamp.render session.expiresAt))]

/-- The session that was stored, if this is one. -/
def ofJson? (value : Json.Value) : Option Session :=
  match value.fields? ["privateKey", "expiresAt"] with
  | some [privateKey, expiresAt] => do
    some ⟨← required? text? privateKey, ← required? Record.instant? expiresAt⟩
  | _ => none

/-- The JSON text of a session. -/
def text (session : Session) : String := session.toJson.compact

/-- The session of a JSON text. -/
def ofText? (text : String) : Option Session := (Json.parse text).bind ofJson?

/-- The session without its key, for diagnostics. -/
def describe (session : Session) : String :=
  "Session \x7b private_key: \"<redacted>\", expires_at: "
    ++ Timestamp.render session.expiresAt ++ " \x7d"

/-- Stores a session in place of any other. -/
def save (session : Session) : Command Unit := set Store.sessionKey session.text

/-- Starts a session for a private key and says when it expires. -/
def start (length : Span) (privateKey : String) : Command Instant := do
  let session := Session.mk privateKey (expiry length (← now))
  session.save
  return session.expiresAt

/-- Removes the session, whether there is one or not. -/
def finish : Command Unit := delete Store.sessionKey

/-- The session, if it is live. One that is not, or cannot be read, is removed. -/
def live : Command (Option Session) := do
  match ← get Store.sessionKey with
  | none => return none
  | some text =>
    -- What cannot be read is of no use to anybody: it is treated like a session that
    -- has expired.
    match ofText? text with
    | none =>
      finish
      return none
    | some session =>
      if session.isLiveAt (← now) then return some session
      else
        finish
        return none

/-- Starts a live session anew, with the same key; says whether there was one. -/
def refresh (length : Span) : Command Bool := do
  match ← live with
  | none => return false
  | some session =>
    save { session with expiresAt := expiry length (← now) }
    return true

/-- Whether there is a live session. A store that fails counts as locked. -/
def isUnlocked : Command Bool := do
  match ← attempt live with
  | some session => return session.isSome
  | none => return false

/-- The private key of the live session. -/
def secret : Command String := do
  match ← live with
  | none => fail .locked
  | some session => return session.privateKey

/-- When the live session expires. -/
def deadline : Command (Option Instant) := do return (← live).map Session.expiresAt

end Session

end Custody
