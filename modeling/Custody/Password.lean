import Custody.Json.Record
import Custody.Text.Lowercase

/-!
# `Custody.Password`: how strong a password is

A password scores one point for its length, one for having both cases, one for a digit and one
for a symbol, and loses two if it begins with a well-worn pattern. Only letters and digits of
ASCII count as such, so everything else is a symbol. A wallet is created only under a password
with all four points; any other use of a password asks nothing of it.
-/

set_option autoImplicit false

namespace Custody.Password

open Json.Value (required? uint8? list? text? bool?)

/-- Characters a password should have. -/
def minLength : Nat := 12

/-- The best score. -/
def maxScore : Nat := 4

/-- Points lost by a common pattern. -/
def patternPenalty : Nat := 2

/-- Patterns that passwords begin with, in lower case. -/
def commonPrefixes : List String := ["123", "abc", "password", "qwerty"]

/-- A verdict on a password. -/
structure Strength where
  score : UInt8
  feedback : List String
  isStrong : Bool
  deriving DecidableEq, Repr

namespace Strength

/-- The rating as it is printed. -/
def toJson (strength : Strength) : Json.Value :=
  .ofMembers [("score", .nat strength.score.toNat),
    ("feedback", .array (strength.feedback.map .text)), ("isStrong", .bool strength.isStrong)]

/-- The rating that was printed, if this is one. -/
def ofJson? (value : Json.Value) : Option Strength :=
  match value.fields? ["score", "feedback", "isStrong"] with
  | some [score, feedback, isStrong] => do
    some ⟨← required? uint8? score,
      ← required? (list? text?) feedback,
      ← required? bool? isStrong⟩
  | _ => none

end Strength

/-- The rules that earn a point, each with the advice for a password that breaks it. -/
def rules : List ((List Char → Bool) × String) := [
  (fun cs => minLength ≤ cs.length, "Use at least 12 characters"),
  (fun cs => cs.any Char.isLower && cs.any Char.isUpper, "Mix uppercase and lowercase letters"),
  (fun cs => cs.any Char.isDigit, "Add at least one number"),
  (fun cs => cs.any fun c => !c.isAlphanum, "Add at least one symbol")]

/-- Whether the lower case of the password begins with a common pattern. -/
def hasCommonPrefix (cs : List Char) : Bool :=
  commonPrefixes.any fun pattern => pattern.toList.isPrefixOf (Text.lower cs)

/-- The strength of a password, with advice in the order of the rules. -/
def strength (password : String) : Strength :=
  let cs := password.toList
  let points := min (rules.filter fun (rule, _) => rule cs).length maxScore
  let advice := (rules.filter fun (rule, _) => !rule cs).map Prod.snd
  if hasCommonPrefix cs then
    -- The points are at least zero, and never enough for a strong password.
    let points := points - patternPenalty
    ⟨UInt8.ofNat points,
      advice ++ ["Avoid common patterns like \"123\" or \"password\""], maxScore ≤ points⟩
  else ⟨UInt8.ofNat points, advice, maxScore ≤ points⟩

/-- What an empty password is told, where any other one would do. -/
def emptyAdvice : String := "Password must not be empty"

end Custody.Password
