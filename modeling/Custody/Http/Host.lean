import Custody.Domain.Name
import Custody.Http.Escape
import Custody.Http.Host.Number

/-!
# `Custody.Http.Host`: hosts of addresses

A host is a name or a number. Schemes that the web knows look names up, so a name is taken in
ASCII, and one that ends in a number is meant as a number. Other schemes take a name as it is.
-/

set_option autoImplicit false

namespace Custody.Http

/-- A host. -/
inductive Host where
  /-- No host, where there could be one. -/
  | empty
  | name (text : String)
  | fourBytes (address : Nat)
  | eightPieces (pieces : List Nat)
  deriving DecidableEq, Repr

namespace Host

/-- A host as it is looked up. -/
def lookupName : Host → String
  | .empty => ""
  | .name text => text
  | .fourBytes address => renderFourBytes address
  | .eightPieces pieces => renderEightPieces pieces

/-- A host as it stands in an address. -/
def render : Host → String
  | .eightPieces pieces => "[" ++ renderEightPieces pieces ++ "]"
  | host => host.lookupName

/-- A host between brackets; `cs` starts behind the first one. -/
def bracketed? (cs : List Char) : Option Host :=
  if cs.getLast? = some ']' then (eightPieces? cs.dropLast).map .eightPieces else none

/-- Characters that may not stand in a name that is taken as it is. -/
def forbidden : List Char :=
  ['\x00', '\t', '\n', '\r', ' ', '#', '/', ':', '<', '>', '?', '@', '[', '\\', ']', '^', '|']

/-- Whether a character may stand in a name that is looked up. -/
def isNameChar (c : Char) : Bool :=
  0x20 < c.toNat && c.toNat < 0x7f && c ≠ '%' && !forbidden.contains c

/-- A host of a scheme that looks names up. -/
def known? (cs : List Char) : Option Host :=
  match cs with
  | '[' :: rest => bracketed? rest
  | _ => do
    let name ← Domain.toAscii? (← unescapeText? cs)
    if name = [] ∨ !name.all isNameChar then none
    else if endsInNumber name then (fourBytes? name).map .fourBytes
    else some (.name (String.ofList name))

/-- A host of any other scheme. -/
def other? (cs : List Char) : Option Host :=
  match cs with
  | [] => some .empty
  | '[' :: rest => bracketed? rest
  | _ => if cs.any forbidden.contains then none else some (.name (escape [] cs))

end Host

end Custody.Http
