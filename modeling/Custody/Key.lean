import Custody.Crypto.Ed25519
import Custody.Text.Hex

/-!
# `Custody.Key`: key pairs, public keys and signatures

A wallet has one key pair, given by its 32-byte seed. Keys and signatures are written in
hexadecimal. A public key that someone names as a receiver need not be a point of the curve;
one that is read to check signatures with has to be (`PublicKey.ofBytes`).
-/

set_option autoImplicit false

namespace Custody

open Text Crypto

/-- What a byte string or a text failed to be. -/
inductive KeyError where
  | secretKey
  | publicKey
  | signature
  deriving DecidableEq, Repr

/-- The text of the error. -/
def KeyError.message : KeyError → String
  | .secretKey => "invalid secret key: expected 32 bytes"
  | .publicKey => "invalid public key: expected 32 bytes on the curve"
  | .signature => "invalid signature: expected 64 bytes"

/-- The 32 bytes of a public key. -/
structure PublicKey where
  bytes : Block 32
  deriving DecidableEq

/-- The 64 bytes of a signature. -/
structure Signature where
  bytes : Block 64
  deriving DecidableEq

/-- A key pair, by the seed of its private key. -/
structure Keypair where
  seed : Block 32
  deriving DecidableEq

namespace PublicKey

/-- The key in hexadecimal; it is also the address of its wallet. -/
def toHex (key : PublicKey) : String := Hex.encode key.bytes.bytes

/-- The key of 32 bytes that are a point of the curve. -/
def ofBytes (bytes : Bytes) : Except KeyError PublicKey :=
  match bytes.toBlock? 32 with
  | none => .error .publicKey
  | some block => if Ed25519.isPublicKey block then .ok ⟨block⟩ else .error .publicKey

/-- The key that a text gives in hexadecimal. -/
def ofHex (text : String) : Except KeyError PublicKey :=
  match Hex.decode text with
  | .error _ => .error .publicKey
  | .ok bytes => ofBytes bytes

/-- A short form for diagnostics. -/
def describe (key : PublicKey) : String :=
  "PublicKey(" ++ (key.toHex.take 16).toString ++ ")"

/-- Whether the signature is the key's signature of the message. -/
def verify (key : PublicKey) (message : Bytes) (signature : Signature) : Bool :=
  Ed25519.verify key.bytes message signature.bytes

end PublicKey

namespace Signature

/-- The signature in hexadecimal digits. -/
def toHex (signature : Signature) : String := Hex.encode signature.bytes.bytes

/-- The signature of 64 bytes, whatever they are. -/
def ofBytes (bytes : Bytes) : Except KeyError Signature :=
  match bytes.toBlock? 64 with
  | none => .error .signature
  | some block => .ok ⟨block⟩

/-- The signature that a text gives in hexadecimal. -/
def ofHex (text : String) : Except KeyError Signature :=
  match Hex.decode text with
  | .error _ => .error .signature
  | .ok bytes => ofBytes bytes

/-- A short form for diagnostics: both ends. -/
def describe (signature : Signature) : String :=
  let hex := signature.toHex
  "WalletSignature(" ++ (hex.take 8).toString ++ "..." ++ (hex.drop 120).toString ++ ")"

end Signature

namespace Keypair

/-- The public key that belongs to the secret. -/
def publicKey (keypair : Keypair) : PublicKey := ⟨Ed25519.publicKey keypair.seed⟩

/-- The address of the wallet that holds this key pair. -/
def address (keypair : Keypair) : String := keypair.publicKey.toHex

/-- The private key in hexadecimal, the form in which a session keeps it. -/
def secretHex (keypair : Keypair) : String := Hex.encode keypair.seed.bytes

/-- The key pair of a seed of 32 bytes. -/
def ofBytes (bytes : Bytes) : Except KeyError Keypair :=
  match bytes.toBlock? 32 with
  | none => .error .secretKey
  | some seed => .ok ⟨seed⟩

/-- The key pair whose seed a text gives in hexadecimal. -/
def ofHex (text : String) : Except KeyError Keypair :=
  match Hex.decode text with
  | .error _ => .error .secretKey
  | .ok bytes => ofBytes bytes

/-- The signature of a message. -/
def sign (keypair : Keypair) (message : Bytes) : Signature :=
  ⟨Ed25519.sign keypair.seed message⟩

/-- The public half, for diagnostics. -/
def describe (keypair : Keypair) : String :=
  "WalletKeypair(pub=" ++ keypair.address ++ ")"

end Keypair

/-- Signs with a private key in hexadecimal. The text is read here once more; `Keypair.ofHex` has
no part in it. -/
def signHex (message : Bytes) (secret : String) : Except KeyError Signature :=
  match Hex.decode secret with
  | .error _ => .error .secretKey
  | .ok bytes =>
    match Keypair.ofBytes bytes with
    | .error _ => .error .secretKey
    | .ok keypair => .ok (keypair.sign message)

/-- What is said of a private key that cannot sign. -/
def malformedPrivateKey : String := "private key is malformed: expected 32 bytes of hex"

end Custody
