import Custody.Json.Value

/-!
# `Custody.Json.Pretty`: the indented text of a JSON value

Every item and every member stands on a line of its own, two blanks further in than what holds
it; an array or an object without any is closed at once.
-/

set_option autoImplicit false

namespace Custody.Json.Value

/-- A line break and the blanks that begin a line at a depth. -/
def newline (depth : Nat) : List Char := '\n' :: List.replicate (2 * depth) ' '

mutual

/-- The indented text of a value that starts at a depth. -/
def renderIndented (depth : Nat) : Value → List Char
  | .array (item :: rest) => '[' :: indentItems (depth + 1) (item :: rest)
  | .object (member :: rest) => '\x7b' :: indentMembers (depth + 1) (member :: rest)
  | .array [] => ['[', ']']
  | .object [] => ['\x7b', '\x7d']
  | .null => render .null
  | .bool b => render (.bool b)
  | .nat n => render (.nat n)
  | .otherNumber => render .otherNumber
  | .string s => render (.string s)

/-- The items of an array and its closing bracket; `depth` is theirs. -/
def indentItems (depth : Nat) : List Value → List Char
  | [] => newline (depth - 1) ++ [']']
  | [item] => newline depth ++ item.renderIndented depth ++ newline (depth - 1) ++ [']']
  | item :: rest => newline depth ++ item.renderIndented depth ++ ',' :: indentItems depth rest

/-- The members of an object and its closing brace; `depth` is theirs. -/
def indentMembers (depth : Nat) : List (Spelled × Value) → List Char
  | [] => newline (depth - 1) ++ ['\x7d']
  | [(key, value)] =>
    newline depth ++ renderString key ++ ':' :: ' ' :: value.renderIndented depth
      ++ newline (depth - 1) ++ ['\x7d']
  | (key, value) :: rest =>
    newline depth ++ renderString key ++ ':' :: ' ' :: value.renderIndented depth
      ++ ',' :: indentMembers depth rest

end

/-- The indented text of a value as a string. -/
def pretty (value : Value) : String := String.ofList (value.renderIndented 0)

end Custody.Json.Value
