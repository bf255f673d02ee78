/-!
# `Custody.Cli.Usage`: reading a command line

A command line has options and, at its top, the name of a command, after which the options of
that command follow. An option is given by its long name, with its value in the next word or
after an equals sign, or by one letter, with its value in the next word or right behind. A word
that begins with a hyphen is never the next word's value. No option may be given twice on one
level. What is not given may come from the environment, and what is neither from a fallback; an
option that takes a value and has no fallback has to come from somewhere.

A value in the next word is only looked at when the next option comes or the level ends, so a
word that makes no sense is complained about before the value in front of it.
-/

set_option autoImplicit false

namespace Custody.Cli

/-- Why there is nothing to run. Asking for help or for the version is one reason. -/
inductive UsageError where
  | help
  /-- Nothing at all was given. -/
  | helpOnNothing
  /-- The version is asked for, in these words. -/
  | version (text : String)
  | unknownArgument
  | unknownCommand
  | missingCommand
  | missingArgument
  /-- A value is missing, empty where it must not be, or none of the choices. -/
  | invalidValue
  /-- A value that should be a number is none. -/
  | malformedValue
  | givenTwice
  /-- A value for an option that takes none. -/
  | needlessValue
  deriving DecidableEq, Repr

namespace UsageError

def message : UsageError → String
  | .help | .helpOnNothing => "no command was given"
  | .version text => text
  | .unknownArgument => "unexpected argument"
  | .unknownCommand => "unrecognized subcommand"
  | .missingCommand => "a subcommand is required"
  | .missingArgument => "a required argument was not provided"
  | .invalidValue => "a value is missing or is none of the possible values"
  | .malformedValue => "a value is not a number of 64 bits"
  | .givenTwice => "an argument cannot be used multiple times"
  | .needlessValue => "an argument takes no value"

/-- The exit code: asking for help or for the version is no failure. -/
def code : UsageError → Nat
  | .help | .version _ => 0
  | _ => 2

end UsageError

/-- A value that has been looked at. -/
inductive Value where
  | text (s : String)
  | number (n : UInt64)
  deriving DecidableEq, Repr

/-- What a value may be. -/
inductive Kind where
  | text
  /-- Anything but the empty text. -/
  | path
  /-- A number of 64 bits in decimal, perhaps with a plus sign. -/
  | number
  | choice (names : List String)
  deriving DecidableEq, Repr

/-- The number that the digits spell, if there are any and it has 64 bits. -/
def digits? (cs : List Char) : Option UInt64 :=
  if cs = [] ∨ !cs.all Char.isDigit then none
  else
    let n := cs.foldl (fun n c => 10 * n + (c.toNat - 48)) 0
    if n < UInt64.size then some (UInt64.ofNat n) else none

/-- The number that a value spells. -/
def number? (text : String) : Option UInt64 :=
  match text.toList with
  | '+' :: cs => digits? cs
  | cs => digits? cs

/-- Looks at a value. -/
def Kind.read (kind : Kind) (text : String) : Except UsageError Value :=
  match kind with
  | .text => .ok (.text text)
  | .path => if text = "" then .error .invalidValue else .ok (.text text)
  | .number =>
    match number? text with
    | none => .error .malformedValue
    | some n => .ok (.number n)
  | .choice names => if text ∈ names then .ok (.text text) else .error .invalidValue

/-- What an option does. -/
inductive Effect where
  | help
  | version (text : String)
  | switch
  | value (kind : Kind)
  deriving DecidableEq, Repr

/-- An option. -/
structure Opt where
  name : String
  letter : Option Char := none
  effect : Effect
  /-- The variable of the environment that stands in for it. -/
  envVar : Option String := none
  fallback : Option Value := none
  deriving DecidableEq, Repr

/-- Whether it has to come from somewhere. -/
def Opt.isRequired (opt : Opt) : Bool :=
  match opt.effect with
  | .value _ => opt.fallback.isNone
  | _ => false

/-- The options that may stand on a level, and the commands that end it. -/
structure Level where
  options : List Opt
  commands : List String
  deriving DecidableEq, Repr

/-- What has been read on a level: the options given, and one whose value has not been looked at
or has yet to come. -/
structure Reading where
  given : List (String × Value)
  pending : Option (Opt × Option String)
  deriving DecidableEq, Repr

/-- How a level ends. -/
inductive Ending where
  | done
  | command (name : String) (rest : List String)
  deriving DecidableEq, Repr

namespace Reading

/-- Nothing has been read. -/
def start : Reading := ⟨[], none⟩

/-- Whether an option has been given so far. -/
def isGiven (reading : Reading) (name : String) : Bool :=
  (reading.given.lookup name).isSome

/-- Whether the next word is a value. -/
def awaits (reading : Reading) : Bool :=
  match reading.pending with
  | some (_, none) => true
  | _ => false

/-- Takes an option with its value. -/
def accept (reading : Reading) (opt : Opt) (kind : Kind) (text : String) :
    Except UsageError Reading :=
  if reading.isGiven opt.name then .error .givenTwice
  else match kind.read text with
    | .error e => .error e
    | .ok value => .ok { reading with given := reading.given ++ [(opt.name, value)] }

/-- Looks at the value that is pending. -/
def resolve (reading : Reading) : Except UsageError Reading :=
  match reading.pending with
  | none => .ok reading
  | some (_, none) => .error .invalidValue
  | some (opt, some text) =>
    match opt.effect with
    | .value kind => { reading with pending := none }.accept opt kind text
    | _ => .ok { reading with pending := none }

/-- Takes an option, with or without a value behind it in the same word. -/
def take (reading : Reading) (opt : Opt) (attached : Option String) :
    Except UsageError Reading :=
  match opt.effect, attached with
  | .value kind, some text => do
    let reading ← reading.resolve
    reading.accept opt kind text
  | .value _, none => do
    let reading ← reading.resolve
    return { reading with pending := some (opt, none) }
  | _, some _ => .error .needlessValue
  | .help, none => do
    let _ ← reading.resolve
    .error .help
  | .version text, none => do
    let _ ← reading.resolve
    .error (.version text)
  | .switch, none => do
    let reading ← reading.resolve
    if reading.isGiven opt.name then .error .givenTwice
    else return { reading with given := reading.given ++ [(opt.name, .text "true")] }

end Reading

namespace Level

/-- Takes a word `--name` or `--name=value`, without its hyphens. -/
def takeLong (level : Level) (reading : Reading) (cs : List Char) : Except UsageError Reading :=
  let name := String.ofList (cs.takeWhile (· ≠ '='))
  let attached := match cs.dropWhile (· ≠ '=') with
    | _ :: value => some (String.ofList value)
    | [] => none
  match level.options.find? (·.name = name) with
  | none => .error .unknownArgument
  | some opt => reading.take opt attached

/-- What is behind the letter of an option that takes a value. -/
def attachedValue : List Char → Option String
  | [] => none
  | '=' :: value => some (String.ofList value)
  | value => some (String.ofList value)

/-- Takes a word of letters, without its hyphen. The first one that takes a value takes the rest
of the word. -/
def takeLetters (level : Level) (reading : Reading) : List Char → Except UsageError Reading
  | [] => .ok reading
  | c :: cs =>
    match level.options.find? (·.letter = some c) with
    | none => .error .unknownArgument
    | some opt =>
      match opt.effect with
      | .value _ => reading.take opt (attachedValue cs)
      | _ =>
        match reading.take opt none with
        | .error e => .error e
        | .ok reading => level.takeLetters reading cs

/-- What is said of a word that is out of place. Behind `--` there are no commands. -/
def misplaced (level : Level) (afterDashes : Bool) (word : String) : UsageError :=
  if level.commands = [] ∨ (afterDashes ∧ word ∈ level.commands) then .unknownArgument
  else .unknownCommand

/-- What is said to the command `help`, which may be followed by a command. -/
def helpOn (level : Level) : List String → UsageError
  | [] => .help
  | [name] => if name ∈ level.commands then .help else .unknownCommand
  | _ => .unknownCommand

/-- Reads words until they end or a command comes. -/
def read (level : Level) (afterDashes : Bool) (reading : Reading) :
    List String → Except UsageError (Reading × Ending)
  | [] => .ok (reading, .done)
  | word :: rest =>
    if afterDashes then .error (level.misplaced true word)
    else if !reading.awaits && level.commands.contains word then
      if word = "help" then .error (level.helpOn rest) else .ok (reading, .command word rest)
    else
      let next := match word.toList with
        | ['-', '-'] => none
        | '-' :: '-' :: cs => some (level.takeLong reading cs)
        | '-' :: c :: cs => some (level.takeLetters reading (c :: cs))
        | _ =>
          match reading.pending with
          | some (opt, none) => some (.ok { reading with pending := some (opt, some word) })
          | _ => some (.error (level.misplaced false word))
      match next with
      | none => level.read true reading rest
      | some (.error e) => .error e
      | some (.ok reading) => level.read false reading rest

/-- The values that the environment gives for options that were not given. -/
def fromEnvironment (level : Level) (environment : List (String × String)) (reading : Reading) :
    Except UsageError (List (String × Value)) :=
  let rec go : List Opt → Except UsageError (List (String × Value))
    | [] => .ok []
    | opt :: rest =>
      match opt.effect, opt.envVar.bind (environment.lookup ·) with
      | .value kind, some text =>
        if reading.isGiven opt.name then go rest
        else do
          let value ← kind.read text
          let values ← go rest
          return (opt.name, value) :: values
      | _, _ => go rest
  go level.options

/-- The options of a level, those of the environment after those given. -/
structure Options where
  given : List (String × Value)
  inherited : List (String × Value)
  deriving DecidableEq, Repr

/-- Ends a level: looks at the last value and at the environment. -/
def finish (level : Level) (environment : List (String × String)) (reading : Reading) :
    Except UsageError Options := do
  let reading ← reading.resolve
  let inherited ← level.fromEnvironment environment reading
  return ⟨reading.given, inherited⟩

/-- Whether an option that has to come from somewhere did not. -/
def lacks (level : Level) (options : Options) : Bool :=
  level.options.any fun opt =>
    opt.isRequired && ((options.given ++ options.inherited).lookup opt.name).isNone

end Level

end Custody.Cli
