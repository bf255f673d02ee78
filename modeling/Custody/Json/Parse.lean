import Custody.Json.Token

/-!
# `Custody.Json.Parse`: the value of a JSON text

Tokens are taken in one at a time by a machine with a stack of open arrays and objects, so
that nesting of any depth is read. `parse` gives the one value of a text; blanks may stand
around it, and nothing else.
-/

set_option autoImplicit false

namespace Custody.Json

/-- An array or an object that is still open. What it holds so far is listed latest first. -/
inductive Frame where
  | array (items : List Value)
  | object (members : List (Spelled × Value))
  /-- An object whose last key has no value yet. -/
  | member (members : List (Spelled × Value)) (key : Spelled)

/-- What has to come next. -/
inductive Expected where
  | value
  /-- The first item of an array, or its end. -/
  | itemOrEnd
  /-- The first key of an object, or its end. -/
  | keyOrEnd
  | key
  | colon
  /-- A comma, or the end of what is open. -/
  | commaOrEnd
  /-- Nothing: the value is complete. -/
  | nothing (value : Value)

/-- What has to come next, and what is open, innermost first. -/
structure Reader where
  expected : Expected
  stack : List Frame

namespace Reader

/-- A value is complete and takes its place in what is open. -/
def complete (value : Value) : List Frame → Option Reader
  | [] => some ⟨.nothing value, []⟩
  | .array items :: stack => some ⟨.commaOrEnd, .array (value :: items) :: stack⟩
  | .member members key :: stack =>
    some ⟨.commaOrEnd, .object ((key, value) :: members) :: stack⟩
  -- A value cannot stand where a key is missing.
  | .object _ :: _ => none

/-- A token where a value has to start. -/
def value (stack : List Frame) : Token → Option Reader
  | .openBracket => some ⟨.itemOrEnd, .array [] :: stack⟩
  | .openBrace => some ⟨.keyOrEnd, .object [] :: stack⟩
  | .null => complete .null stack
  | .bool b => complete (.bool b) stack
  | .nat n => complete (.nat n) stack
  | .otherNumber => complete .otherNumber stack
  | .string s => complete (.string s) stack
  | _ => none

/-- A token where a key has to stand. -/
def key : List Frame → Token → Option Reader
  | .object members :: stack, .string s => some ⟨.colon, .member members s :: stack⟩
  | _, _ => none

/-- A closing bracket or brace, after at least one item or where none has come. -/
def close : List Frame → Token → Option Reader
  | .array items :: stack, .closeBracket => complete (.array items.reverse) stack
  | .object members :: stack, .closeBrace => complete (.object members.reverse) stack
  | _, _ => none

/-- A comma. -/
def comma : List Frame → Option Reader
  | .array items :: stack => some ⟨.value, .array items :: stack⟩
  | .object members :: stack => some ⟨.key, .object members :: stack⟩
  | _ => none

/-- Takes in one token. -/
def step (reader : Reader) (token : Token) : Option Reader :=
  match reader.expected, token with
  | .value, token => value reader.stack token
  | .itemOrEnd, .closeBracket => close reader.stack .closeBracket
  | .itemOrEnd, token => value reader.stack token
  | .keyOrEnd, .closeBrace => close reader.stack .closeBrace
  | .keyOrEnd, token => key reader.stack token
  | .key, token => key reader.stack token
  | .colon, .colon => some ⟨.value, reader.stack⟩
  | .commaOrEnd, .comma => comma reader.stack
  | .commaOrEnd, token => close reader.stack token
  | _, _ => none

/-- Takes in all tokens. -/
def run : Reader → List Token → Option Reader
  | reader, [] => some reader
  | reader, token :: rest =>
    match reader.step token with
    | none => none
    | some reader => run reader rest

end Reader

/-- The value that the tokens spell. -/
def Value.ofTokens? (tokens : List Token) : Option Value :=
  match Reader.run ⟨.value, []⟩ tokens with
  | some ⟨.nothing value, _⟩ => some value
  | _ => none

/-- The value of a JSON text. -/
def parse (text : String) : Option Value :=
  match Token.scan text.toList with
  | none => none
  | some tokens => Value.ofTokens? tokens

end Custody.Json
