import Custody.Key
import Custody.Text.Blank

/-!
# `Custody.Address`: addresses of wallets

An address is a public key in 64 hexadecimal digits. A typed address may have blanks around it
and one `0x` in front; its bytes are taken as they are, on the curve or not.
-/

set_option autoImplicit false

namespace Custody.Address

/-- Why a text is no address. -/
inductive Fault where
  /-- The trimmed text is not in hexadecimal. -/
  | notHex (trimmed : String) (reason : Text.Hex.DecodeError)
  | length (actual : Nat)
  deriving DecidableEq, Repr

/-- The digits after an optional `0x` or `0X`. -/
def stripMarker : List Char → List Char
  | '0' :: 'x' :: rest => rest
  | '0' :: 'X' :: rest => rest
  | cs => cs

/-- The public key that a typed address names. -/
def parse (typed : String) : Except Fault PublicKey :=
  let trimmed := Text.trimChars typed.toList
  match Text.Hex.decode (String.ofList (stripMarker trimmed)) with
  | .error reason => .error (.notHex (String.ofList trimmed) reason)
  | .ok bytes =>
    match bytes.toBlock? 32 with
    | none => .error (.length bytes.length)
    | some block => .ok ⟨block⟩

/-- The address of a public key. -/
def format (key : PublicKey) : String := key.toHex

end Custody.Address
