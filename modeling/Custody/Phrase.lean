import Custody.Crypto.Pbkdf2
import Custody.Crypto.Sha256
import Custody.Key
import Custody.Phrase.WordList
import Custody.Text.Lowercase

/-!
# `Custody.Phrase`: recovery phrases

A phrase writes 16 to 32 bytes of entropy as words: the entropy and the first bits of its
SHA-256 digest, one for every 32 bits, are cut into groups of eleven bits, and each group is
the index of a word (BIP-39).

A phrase typed by hand is read leniently as to case and white space and strictly as to
everything else. The complaint is about the number of words first, then about the first
unknown word, then about the checksum. From its words, joined by single spaces, comes the seed
of the key pair: the same words give the same wallet everywhere.
-/

set_option autoImplicit false

namespace Custody

/-- A recovery phrase, as its words. -/
structure Phrase where
  words : List String
  deriving DecidableEq

namespace Phrase

/-- Why a text is no recovery phrase. -/
inductive Fault where
  | wordCount (count : Nat)
  | unknownWord (position : Nat)
  | checksum
  deriving DecidableEq, Repr

/-- The reason in words; it never quotes the phrase. -/
def Fault.reason : Fault → String
  | .wordCount count =>
    "mnemonic has an invalid word count: " ++ toString count
      ++ ". Word count must be 12, 15, 18, 21, or 24"
  | .unknownWord position =>
    "mnemonic contains an unknown word (word " ++ toString position ++ ")"
  | .checksum => "the mnemonic has an invalid checksum"

/-- The text of the complaint. -/
def Fault.message (fault : Fault) : String := "invalid mnemonic: " ++ fault.reason

/-- The `width` lowest bits of a number, highest first. -/
def bitsOf (width n : Nat) : List Bool := (List.range width).reverse.map n.testBit

/-- The number that the bits spell, highest first. -/
def ofBits (bits : List Bool) : Nat := bits.foldl (fun n bit => 2 * n + bit.toNat) 0

/-- The bits of a byte string, each byte from its highest bit on. -/
def bitsOfBytes (bytes : Bytes) : List Bool := bytes.flatMap fun b => bitsOf 8 b.toNat

/-- The bits cut into `count` groups of `width`. -/
def groups (width : Nat) : (count : Nat) → List Bool → List (List Bool)
  | 0, _ => []
  | count + 1, bits => bits.take width :: groups width count (bits.drop width)

/-- The entropy's bits followed by its checksum: one bit of the digest for every four bytes. -/
def withChecksum (entropy : Bytes) : List Bool :=
  bitsOfBytes entropy
    ++ (bitsOfBytes (Crypto.Sha256.digest entropy).bytes).take (entropy.length / 4)

/-- The phrase of some entropy, whose length has to be a multiple of four bytes. -/
def ofEntropy (entropy : Bytes) : Phrase :=
  ⟨(groups 11 (entropy.length / 4 * 3) (withChecksum entropy)).map fun g => wordAt (ofBits g)⟩

/-- The words joined by single spaces. -/
def text (phrase : Phrase) : String := " ".intercalate phrase.words

/-- The numbers of words that a phrase may have. -/
def wordCounts : List Nat := [12, 15, 18, 21, 24]

/-- The indices of the words, or the position of the first word that is not in the list. -/
def indices (position : Nat) : List String → Except Fault (List Nat)
  | [] => .ok []
  | word :: rest =>
    match indexOf? word with
    | none => .error (.unknownWord position)
    | some index => (indices (position + 1) rest).map (index :: ·)

/-- The bytes that the bits spell. -/
def bytesOfBits (bits : List Bool) : Bytes :=
  (groups 8 (bits.length / 8) bits).map fun g => UInt8.ofNat (ofBits g)

/-- The entropy of a phrase whose words have these indices. -/
def entropyOf (indices : List Nat) : Bytes :=
  bytesOfBits ((indices.flatMap (bitsOf 11)).take (indices.length / 3 * 32))

/-- The phrase of lower-case words, if they make one. -/
def ofWords (words : List String) : Except Fault Phrase :=
  if words.length ∉ wordCounts then .error (.wordCount words.length)
  else match indices 0 words with
    | .error fault => .error fault
    | .ok is =>
      -- The whole is compared: entropy that was cut off gives itself back, and the
      -- checksum is what may differ.
      if is.flatMap (bitsOf 11) = withChecksum (entropyOf is) then .ok ⟨words⟩
      else .error .checksum

/-- The phrase that a text spells, whatever its case and its white space. -/
def parse (typed : String) : Except Fault Phrase :=
  ofWords ((Text.words (Text.lower (Text.trimChars typed.toList))).map String.ofList)

/-- Whether a text spells a phrase. -/
def isValid (typed : String) : Bool := (parse typed).isOk

/-- The text of the phrase that was typed: lower case, single spaces. -/
def normalize (typed : String) : Except Fault String := (parse typed).map text

/-- The 64 bytes that the phrase stretches to. -/
def stretched (phrase : Phrase) : Bytes :=
  Crypto.Pbkdf2.derive (Bytes.ofText phrase.text) (Bytes.ofText "mnemonic") 2048

/-- The key pair of a phrase: the first half of its stretched bytes is the seed. -/
def keypair (phrase : Phrase) : Keypair :=
  ⟨Bytes.toBlock 32 phrase.stretched⟩

/-- The key pair of the phrase that was typed. -/
def derive (typed : String) : Except Fault Keypair := (parse typed).map keypair

end Phrase

end Custody
