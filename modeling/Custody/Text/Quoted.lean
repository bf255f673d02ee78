import Custody.Text.Quoted.Hidden

/-!
# `Custody.Text.Quoted`: text between quotes, for diagnostics

A text in double quotes and a character in single quotes, in which every character that would
not show is given by an escape: a few by a letter, the others as their code point in
hexadecimal between braces.
-/

set_option autoImplicit false

namespace Custody.Text

/-- The escape of a character, or the character itself; `quote` is the quote around it. -/
def escaped (quote c : Char) : List Char :=
  if c = quote || c = '\\' then ['\\', c]
  else if c = '\n' then ['\\', 'n']
  else if c = '\r' then ['\\', 'r']
  else if c = '\t' then ['\\', 't']
  else if c.toNat = 0 then ['\\', '0']
  else if isHidden c then ['\\', 'u', '\x7b'] ++ Nat.toDigits 16 c.toNat ++ ['\x7d']
  else [c]

/-- A text in double quotes. -/
def quote (text : String) : String :=
  "\"" ++ String.ofList (text.toList.flatMap (escaped '"')) ++ "\""

/-- A character in single quotes. -/
def quoteChar (c : Char) : String :=
  "'" ++ String.ofList (escaped '\'' c) ++ "'"

end Custody.Text
