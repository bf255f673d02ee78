import Custody.Cli.Usage

/-!
# `Custody.Cli.Invocation`: what the program is asked to do

An invocation is a command and the settings that all commands share. The shared options may
stand before the command or after it; where they stand in both places, the later ones count.
Every secret can come from the environment.
-/

set_option autoImplicit false

namespace Custody.Cli

/-- How log lines are written. -/
inductive LogFormat where
  | pretty
  | json
  deriving DecidableEq, Repr

/-- The name that selects the format. -/
def LogFormat.name : LogFormat → String
  | .pretty => "pretty"
  | .json => "json"

/-- A command with its arguments. -/
inductive Subcommand where
  | create (password : String)
  | restore (phrase password : String)
  | unlock (password : String)
  | lock
  | status
  | delete (confirmed : Bool)
  | changePassword (old new : String)
  | exportPhrase (password : String)
  | exportKey (password : String)
  | sign (payee : String) (amount nonce : UInt64)
  | send (payee : String) (amount : UInt64) (ledgerUrl : String)
  | checkPassword (password : String)
  | version
  deriving DecidableEq, Repr

/-- A command with the settings that all commands share. -/
structure Invocation where
  dataDir : String
  sessionMinutes : UInt64
  logFormat : LogFormat
  json : Bool
  command : Subcommand
  deriving DecidableEq, Repr

namespace Invocation

/-! ### Options -/

/-- The options that all commands share. -/
def sharedOptions : List Opt := [
  { name := "data-dir", letter := some 'd', effect := .value .path,
    envVar := some "KEEL_DATA_DIR", fallback := some (.text ".keel") },
  { name := "session-minutes", effect := .value .number,
    envVar := some "KEEL_SESSION_MINUTES", fallback := some (.number 30) },
  { name := "log-format", effect := .value (.choice ["pretty", "json"]),
    envVar := some "KEEL_LOG_FORMAT", fallback := some (.text "pretty") },
  { name := "json", effect := .switch }]

/-- The version of the program. -/
def programVersion : String := "0.1.0"

/-- The options that every level has besides; `title` is what the level is called. -/
def standardOptions (title : String) : List Opt := [
  { name := "help", letter := some 'h', effect := .help },
  { name := "version", letter := some 'V', effect := .version (title ++ " " ++ programVersion) }]

/-- An option that takes a text, perhaps from the environment. -/
def textOption (name : String) (envVar : Option String) : Opt :=
  { name, effect := .value .text, envVar }

/-- An option that takes a number. -/
def numberOption (name : String) : Opt := { name, effect := .value .number }

/-- The password that the environment may give. -/
def passwordOption (name : String) : Opt := textOption name (some "KEEL_PASSWORD")

/-- The commands and their own options. -/
def commands : List (String × List Opt) := [
  ("create", [passwordOption "password"]),
  ("import", [textOption "mnemonic" (some "KEEL_MNEMONIC"), passwordOption "password"]),
  ("unlock", [passwordOption "password"]),
  ("lock", []),
  ("status", []),
  ("delete", [{ name := "yes", effect := .switch }]),
  ("change-password",
    [passwordOption "old-password", textOption "new-password" (some "KEEL_NEW_PASSWORD")]),
  ("export-mnemonic", [passwordOption "password"]),
  ("export-key", [passwordOption "password"]),
  ("sign", [textOption "to" none, numberOption "amount", numberOption "nonce"]),
  ("send", [textOption "to" none, numberOption "amount",
    { textOption "ledger-url" (some "KEEL_LEDGER_URL") with
      fallback := some (.text "http://127.0.0.1:8080") }]),
  ("check-password", [passwordOption "password"]),
  ("version", [])]

/-- The level before the command. -/
def topLevel : Level :=
  ⟨sharedOptions ++ standardOptions "keel", commands.map Prod.fst ++ ["help"]⟩

/-- The level after a command, which has these options of its own. -/
def commandLevel (name : String) (own : List Opt) : Level :=
  ⟨own ++ sharedOptions ++ standardOptions ("keel-" ++ name), []⟩

/-- The variables of the environment that are looked at. -/
def environmentNames : List String :=
  (topLevel.options ++ commands.flatMap Prod.snd).filterMap Opt.envVar

/-- What is printed where help is asked for. -/
def usage : String :=
  "Usage: keel [OPTIONS] <COMMAND>\n\nCommands:\n"
    ++ String.join (topLevel.commands.map fun name => "  " ++ name ++ "\n")

/-! ### Values -/

/-- The values of options by name. -/
abbrev Values := List (String × Value)

/-- The fallbacks of the options that have one. -/
def fallbacks (options : List Opt) : Values :=
  options.filterMap fun opt => opt.fallback.map fun value => (opt.name, value)

namespace Values

/-- The text that an option was given. -/
def text (values : Values) (name : String) : String :=
  match values.lookup name with
  | some (.text s) => s
  | _ => ""

/-- The number that an option was given. -/
def number (values : Values) (name : String) : UInt64 :=
  match values.lookup name with
  | some (.number n) => n
  | _ => 0

/-- Whether an option was given at all. -/
def isOn (values : Values) (name : String) : Bool := (values.lookup name).isSome

end Values

/-- The command of a name and of the values of its options. -/
def subcommand? (values : Values) : (name : String) → Option Subcommand
  | "create" => some (.create (values.text "password"))
  | "import" => some (.restore (values.text "mnemonic") (values.text "password"))
  | "unlock" => some (.unlock (values.text "password"))
  | "lock" => some .lock
  | "status" => some .status
  | "delete" => some (.delete (values.isOn "yes"))
  | "change-password" =>
    some (.changePassword (values.text "old-password") (values.text "new-password"))
  | "export-mnemonic" => some (.exportPhrase (values.text "password"))
  | "export-key" => some (.exportKey (values.text "password"))
  | "sign" => some (.sign (values.text "to") (values.number "amount") (values.number "nonce"))
  | "send" =>
    some (.send (values.text "to") (values.number "amount") (values.text "ledger-url"))
  | "check-password" => some (.checkPassword (values.text "password"))
  | "version" => some .version
  | _ => none

/-- The invocation of a command and of the values of all options. -/
def ofValues (values : Values) (command : Subcommand) : Invocation where
  dataDir := values.text "data-dir"
  sessionMinutes := values.number "session-minutes"
  logFormat := if values.text "log-format" = "json" then .json else .pretty
  json := values.isOn "json"
  command := command

/-- What is said where no command was given. -/
def withoutCommand (options : Level.Options) : UsageError :=
  if options.given ++ options.inherited = [] then .helpOnNothing else .missingCommand

/-- What a command line asks for. The level after the command is settled before the one in front
of it. -/
def parse (environment : List (String × String)) (arguments : List String) :
    Except UsageError Invocation := do
  let (reading, ending) ← topLevel.read false .start arguments
  match ending with
  | .done =>
    let options ← topLevel.finish environment reading
    .error (withoutCommand options)
  | .command name rest =>
    let level := commandLevel name ((commands.lookup name).getD [])
    let (inner, _) ← level.read false .start rest
    let inner ← level.finish environment inner
    if level.lacks inner then .error .missingArgument
    let outer ← topLevel.finish environment reading
    let values := inner.given ++ outer.given ++ inner.inherited ++ fallbacks level.options
    match subcommand? values name with
    | none => .error .unknownCommand
    | some command => return ofValues values command

end Invocation

end Custody.Cli
