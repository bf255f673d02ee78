import Custody.Cli.Invocation
import Custody.Json.Pretty
import Custody.Time.Timestamp
import Custody.Wallet

/-!
# `Custody.Cli.Output`: what the program prints

Results are printed as lines for a reader, or as indented JSON. A failure is printed apart from
them: what the program was doing, and what went wrong while it did.
-/

set_option autoImplicit false

namespace Custody.Cli

open Time

/-- What went wrong, and why: each cause is the reason for what is before it. -/
structure Failure where
  message : String
  causes : List String
  deriving DecidableEq, Repr

namespace Failure

/-- A failure that speaks for itself. -/
def plain (e : WalletError) : Failure := ⟨e.message, []⟩

/-- A failure while doing something. -/
def during (activity : String) (e : WalletError) : Failure := ⟨activity, [e.message]⟩

/-- A text behind a margin, with as many blanks before each of its further lines. -/
def indent (margin text : String) : String :=
  let blanks := List.replicate margin.length ' '
  margin ++ String.ofList (text.toList.flatMap fun c => if c = '\n' then c :: blanks else [c])

/-- A cause with its number, which ends in the fifth column. -/
def numbered (number : Nat) (cause : String) : String :=
  let digits := toString number
  indent (String.ofList (List.replicate (5 - digits.length) ' ') ++ digits ++ ": ") cause

/-- The causes, with numbers if there are several. -/
def renderCauses : List String → List String
  | [cause] => [indent "    " cause]
  | causes => causes.mapIdx numbered

def render (failure : Failure) : String :=
  "Error: " ++ failure.message
    ++ (if failure.causes = [] then ""
        else "\n\nCaused by:\n" ++ "\n".intercalate (renderCauses failure.causes))
    ++ "\n"

end Failure

/-- How a run ends. One that broke off says nothing that could be relied on. -/
inductive Outcome where
  | done
  | failed (failure : Failure)
  | brokenOff
  deriving DecidableEq, Repr

/-- The lines printed, and how the run ended. -/
structure Output where
  lines : List String
  outcome : Outcome
  deriving DecidableEq, Repr

namespace Output

/-- Lines, and then success. -/
def ofLines (lines : List String) : Output := ⟨lines, .done⟩

/-- A failure, and nothing printed. -/
def ofFailure (failure : Failure) : Output := ⟨[], .failed failure⟩

/-- The output of a run that broke off. -/
def brokenOff : Output := ⟨[], .brokenOff⟩

/-- The text that is printed. -/
def text (output : Output) : String := String.join (output.lines.map (· ++ "\n"))

/-- What is printed of a failure. -/
def errorText (output : Output) : Option String :=
  match output.outcome with
  | .failed failure => some failure.render
  | _ => none

/-- The exit code. -/
def code (output : Output) : Nat :=
  match output.outcome with
  | .done => 0
  | .failed _ => 1
  | .brokenOff => 101

end Output

/-! ### Lines -/

/-- A value behind a label of fifteen columns. -/
def labelled (label value : String) : String :=
  label ++ String.ofList (List.replicate (15 - label.length) ' ') ++ ": " ++ value

/-- When the session expires. -/
def expiryLine (t : Instant) : String := labelled "Expires at" (Timestamp.renderOffset t)

/-- A headline and the wallet below it. -/
def summaryLines (headline : String) (summary : Wallet.Summary) : List String :=
  [headline, "  " ++ labelled "Address" summary.address,
    "  " ++ labelled "Public key" summary.publicKey]

/-- The wallet, with a headline or as JSON. -/
def summaryOutput (json : Bool) (headline : String) (summary : Wallet.Summary) : List String :=
  if json then [summary.toJson.pretty] else summaryLines headline summary

/-- A new wallet and its phrase. -/
def createdOutput (json : Bool) (created : Wallet.Created) : List String :=
  if json then
    [(Json.Value.ofMembers [("address", .text created.summary.address),
      ("mnemonic", .text created.phrase), ("publicKey", .text created.summary.publicKey)]).pretty]
  else
    summaryLines "Wallet created." created.summary
      ++ ["", "Recovery phrase (write it down, it is not shown again):", "  " ++ created.phrase]

/-- The state of the wallet and when it will lock itself. -/
def stateOutput (json : Bool) (state : Wallet.State) (expiresAt : Option Instant) :
    List String :=
  if json then
    [(Json.Value.ofMembers [("address", (state.address?.map Json.Value.text).getD .null),
      ("expiresAt", (expiresAt.map fun t => .text (Timestamp.renderOffset t)).getD .null),
      ("state", .text state.label)]).pretty]
  else
    [labelled "State" state.label]
      ++ (state.address?.map (labelled "Address")).toList ++ (expiresAt.map expiryLine).toList

/-- A signed transaction, and what the ledger said to it if it was sent. -/
def transactionOutput (json : Bool) (tx : Transaction) (response : Option String) :
    List String :=
  let digest := Text.Hex.encode tx.digest.bytes
  let signature := (tx.signature.map Signature.toHex).getD ""
  if json then
    [(Json.Value.ofMembers [("data", tx.action.toJson), ("digest", .text digest),
      ("nonce", .nat tx.nonce.toNat), ("receiver", .text tx.receiver.toHex),
      ("response", (response.map Json.Value.text).getD .null),
      ("sender", .text tx.sender.toHex), ("signature", .text signature)]).pretty]
  else
    [labelled "Sender" tx.sender.toHex, labelled "Receiver" tx.receiver.toHex,
      labelled "Nonce" (toString tx.nonce.toNat), labelled "Data" tx.action.describe,
      labelled "Digest" digest, labelled "Signature" signature]
      ++ (response.map (labelled "Ledger")).toList

/-- What the program is, and which records it reads. -/
def versionLines : List String :=
  ["keel         " ++ Invocation.programVersion, "record fmt   v" ++ toString recordVersion.toNat,
    "rustc        unknown"]

end Custody.Cli
