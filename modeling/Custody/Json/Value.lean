/-!
# `Custody.Json.Value`: JSON values and their compact text

Members of an object stay in order and may repeat, because what a repeated key means is for
the reader of a record to say. Of numbers only natural ones are told apart: no record of the
wallet holds any other. A string that escapes a surrogate without its partner spells no text;
such a string may stand where nobody reads it, so it is kept as `none`.

`render` writes a value without blanks. Strings are written as they are, except for quotes,
backslashes and control characters.
-/

set_option autoImplicit false

namespace Custody.Json

/-- What a JSON string spells, if it spells a text. -/
abbrev Spelled := Option String

/-- A JSON value. -/
inductive Value where
  | null
  | bool (b : Bool)
  | nat (n : Nat)
  /-- A number with a sign, a fraction or an exponent. -/
  | otherNumber
  | string (text : Spelled)
  | array (items : List Value)
  | object (members : List (Spelled × Value))

namespace Value

/-- A string value. -/
def text (s : String) : Value := .string (some s)

/-- An object with these members. -/
def ofMembers (members : List (String × Value)) : Value :=
  .object (members.map fun (key, value) => (some key, value))

/-- A digit of base sixteen, in lower case. -/
def hexDigit (n : Nat) : Char :=
  if n < 10 then Char.ofNat (48 + n) else Char.ofNat (87 + n)

/-- A character as it stands inside a string. -/
def escape (c : Char) : List Char :=
  if c = '"' || c = '\\' then ['\\', c]
  else if c = '\n' then ['\\', 'n']
  else if c = '\r' then ['\\', 'r']
  else if c = '\t' then ['\\', 't']
  else if c.toNat = 8 then ['\\', 'b']
  else if c.toNat = 12 then ['\\', 'f']
  else if c.toNat < 32 then
    ['\\', 'u', '0', '0', hexDigit (c.toNat / 16), hexDigit (c.toNat % 16)]
  else [c]

/-- A string between quotes. One that spells no text is a lone surrogate. -/
def renderString : Spelled → List Char
  | some s => '"' :: s.toList.flatMap escape ++ ['"']
  | none => ['"', '\\', 'u', 'd', '8', '0', '0', '"']

/-- The decimal digits of a number. -/
def digits (n : Nat) : List Char := Nat.toDigits 10 n

mutual

/-- The compact text of a value. -/
def render : Value → List Char
  | .null => ['n', 'u', 'l', 'l']
  | .bool true => ['t', 'r', 'u', 'e']
  | .bool false => ['f', 'a', 'l', 's', 'e']
  | .nat n => digits n
  | .otherNumber => ['-', '0']
  | .string s => renderString s
  | .array items => '[' :: renderItems items
  | .object members => '\x7b' :: renderMembers members

/-- The items of an array and its closing bracket. -/
def renderItems : List Value → List Char
  | [] => [']']
  | [item] => item.render ++ [']']
  | item :: rest => item.render ++ ',' :: renderItems rest

/-- The members of an object and its closing brace. -/
def renderMembers : List (Spelled × Value) → List Char
  | [] => ['\x7d']
  | [(key, value)] => renderString key ++ ':' :: value.render ++ ['\x7d']
  | (key, value) :: rest =>
    renderString key ++ ':' :: value.render ++ ',' :: renderMembers rest

end

/-- The compact text of a value as a string. -/
def compact (value : Value) : String := String.ofList value.render

end Value

end Custody.Json
