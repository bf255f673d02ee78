import Custody.Proofs.Sealed
import Custody.Proofs.Text.Hex.Digits
import Custody.Proofs.Transfer
import Custody.Transfer.Signing

/-!
# `Custody.Proofs.Transfer.Signing`: two ways to sign with one key

A private key is a key pair, or the text that a session keeps of it. The text is read in two places,
once to make a key pair of it (`Keypair.ofHex`) and once to sign with it (`signHex`). They agree on
every text: `key_texts_sign_alike` says which texts are private keys, that both ways of signing then
leave the same transaction, and that nothing has happened to the transaction otherwise.

The digest comes first and always succeeds, as the keys of a transaction have their lengths
(`InPlace.runOn_digest_bind`). So what is left to fail is the reading of the text, and the signature
is put in after that.
-/

set_option autoImplicit false

namespace Custody

open Text

/-! ### Private keys as texts -/

namespace Keypair

variable {text : String} {keypair : Keypair}

/-- Bytes are a key pair if they are its secret. -/
theorem ofBytes_eq_ok_iff {bytes : Bytes} :
    ofBytes bytes = .ok keypair ↔ bytes = keypair.seed.bytes := by
  constructor
  · intro h
    unfold ofBytes at h
    cases hblock : bytes.toBlock? 32 with
    | none =>
        rw [hblock] at h
        cases h
    | some seed =>
        rw [hblock] at h
        cases h
        exact (Bytes.bytes_of_toBlock? hblock).symm
  · rintro rfl
    exact ofBytes_seed keypair

/-- A text is a key pair if it spells these bytes. -/
theorem ofHex_eq_ok_iff : ofHex text = .ok keypair ↔ Hex.decode text = .ok keypair.seed.bytes := by
  unfold ofHex
  cases Hex.decode text with
  | error e => simp
  | ok bytes => simp [ofBytes_eq_ok_iff]

/-- The private keys among the texts. -/
theorem exists_ofHex_iff :
    (∃ keypair, ofHex text = .ok keypair)
      ↔ text.length = 64 ∧ ∀ c ∈ text.toList, Hex.isDigit c = true := by
  rw [← Hex.exists_block_iff 32]
  constructor
  · rintro ⟨keypair, h⟩
    exact ⟨keypair.seed, ofHex_eq_ok_iff.mp h⟩
  · rintro ⟨seed, h⟩
    exact ⟨⟨seed⟩, ofHex_eq_ok_iff.mpr h⟩

/-- A private key is written as it was read, in lower case. -/
theorem secretHex_of_ofHex (h : ofHex text = .ok keypair) : keypair.secretHex = text.toLower :=
  (Hex.decode_eq_ok_iff.mp (ofHex_eq_ok_iff.mp h)).2

end Keypair

section
variable {secret : String} (message : Bytes)

/-- Signing reads the same private keys. -/
theorem signHex_of_ofHex {keypair : Keypair} (h : Keypair.ofHex secret = .ok keypair) :
    signHex message secret = .ok (keypair.sign message) := by
  unfold signHex
  rw [Keypair.ofHex_eq_ok_iff.mp h]
  simp only [Keypair.ofBytes_seed]

/-- And no others. -/
theorem signHex_of_malformed (h : ¬ ∃ keypair, Keypair.ofHex secret = .ok keypair) :
    signHex message secret = .error .secretKey := by
  unfold signHex
  cases hdecode : Hex.decode secret with
  | error e => rfl
  | ok bytes =>
      simp only
      cases hbytes : Keypair.ofBytes bytes with
      | error e => rfl
      | ok keypair =>
          rw [Keypair.ofBytes_eq_ok_iff.mp hbytes] at hdecode
          exact absurd ⟨keypair, Keypair.ofHex_eq_ok_iff.mpr hdecode⟩ h

end

/-! ### Signing in place -/

namespace Transaction

variable (tx : Transaction) {secret : String}

namespace InPlace

/-- What comes next gets the transaction as it is left. -/
theorem runOn_bind_of_ok {α β : Type} {change : InPlace α} {a : α} {left : Transaction}
    (h : change.runOn tx = (.ok a, left)) (next : α → InPlace β) :
    (change >>= next).runOn tx = (next a).runOn left := by
  show (ExceptT.bindCont next (change.runOn tx).1 : StateM Transaction (Except WalletError β))
    (change.runOn tx).2 = _
  rw [h]
  rfl

/-- The digest is there, and taking it changes nothing. -/
theorem runOn_digest_bind {α : Type} (next : Block 32 → InPlace α) :
    (digest >>= next).runOn tx = (next tx.digest).runOn tx := by
  have hget : (get : InPlace Transaction).runOn tx = (.ok tx, tx) := rfl
  have hdigest : digest.runOn tx = (.ok tx.digest, tx) := by
    unfold digest
    rw [runOn_bind_of_ok tx hget, digest_draft]
    rfl
  exact runOn_bind_of_ok tx hdigest next

/-- Signing in place leaves the signed transaction. -/
theorem runOn_sign (keypair : Keypair) :
    (sign keypair).runOn tx = (.ok (), tx.sign keypair) := by
  unfold sign
  rw [runOn_digest_bind]
  rfl

/-- In place, a text that is a key signs with that key. -/
theorem runOn_signHex_of_ofHex {keypair : Keypair} (h : Keypair.ofHex secret = .ok keypair) :
    (signHex secret).runOn tx = (.ok (), tx.sign keypair) := by
  unfold signHex
  rw [runOn_digest_bind, signHex_of_ofHex _ h]
  rfl

/-- Any other text fails and leaves the transaction as it was. -/
theorem runOn_signHex_of_malformed (h : ¬ ∃ keypair, Keypair.ofHex secret = .ok keypair) :
    (signHex secret).runOn tx = (.error (.signing malformedPrivateKey), tx) := by
  unfold signHex
  rw [runOn_digest_bind, signHex_of_malformed _ h]
  rfl

end InPlace

/-! ### Signing a copy -/

/-- Where no transaction is changed, the signed one is given. -/
theorem signHex_of_ofHex {keypair : Keypair} (h : Keypair.ofHex secret = .ok keypair) :
    tx.signHex secret = .ok (tx.sign keypair) := by
  rw [signHex, Custody.signHex_of_ofHex _ h]
  rfl

/-- Such a text fails on a copy, too. -/
theorem signHex_of_malformed (h : ¬ ∃ keypair, Keypair.ofHex secret = .ok keypair) :
    tx.signHex secret = .error .secretKey := by
  rw [signHex, Custody.signHex_of_malformed _ h]
  rfl

end Transaction

open Transaction (InPlace)

/-- Of every transaction and every text: signing the transaction with the text succeeds just if the
text gives a key pair, and it gives one just if it is 64 hexadecimal digits in any case. Then both
ways of signing leave the same transaction, which has the new signature in place of any old one and
is the same in all else, and the key pair is written as the text in lower case. Otherwise signing
fails with one and the same error, and the transaction is as it was. Signing a copy gives the
transaction that is left, and fails where signing in place does. No key pair is lost in writing it
as a text. -/
theorem key_texts_sign_alike (tx : Transaction) (secret : String) :
    ((∃ left, (InPlace.signHex secret).runOn tx = (.ok (), left))
        ↔ ∃ keypair, Keypair.ofHex secret = .ok keypair)
      ∧ ((∃ keypair, Keypair.ofHex secret = .ok keypair)
        ↔ secret.length = 64 ∧ ∀ c ∈ secret.toList, Hex.isDigit c = true)
      ∧ (∀ keypair, Keypair.ofHex secret = .ok keypair →
        (InPlace.signHex secret).runOn tx
            = (.ok (), { tx with signature := some (keypair.sign tx.digest.bytes) })
          ∧ (InPlace.sign keypair).runOn tx = (InPlace.signHex secret).runOn tx
          ∧ tx.signHex secret = .ok (tx.sign keypair)
          ∧ keypair.secretHex = secret.toLower)
      ∧ ((¬ ∃ keypair, Keypair.ofHex secret = .ok keypair) →
        (InPlace.signHex secret).runOn tx = (.error (.signing malformedPrivateKey), tx)
          ∧ tx.signHex secret = .error .secretKey)
      ∧ ∀ keypair : Keypair, Keypair.ofHex keypair.secretHex = .ok keypair := by
  refine ⟨⟨?_, ?_⟩, Keypair.exists_ofHex_iff, fun keypair h => ?_,
    fun h => ⟨InPlace.runOn_signHex_of_malformed tx h, tx.signHex_of_malformed h⟩,
    Keypair.ofHex_secretHex⟩
  · rintro ⟨left, hsigned⟩
    by_cases h : ∃ keypair, Keypair.ofHex secret = .ok keypair
    · exact h
    · rw [InPlace.runOn_signHex_of_malformed tx h] at hsigned
      cases hsigned
  · rintro ⟨keypair, h⟩
    exact ⟨_, InPlace.runOn_signHex_of_ofHex tx h⟩
  · have hsigned := InPlace.runOn_signHex_of_ofHex tx h
    refine ⟨hsigned, ?_, tx.signHex_of_ofHex h, Keypair.secretHex_of_ofHex h⟩
    rw [InPlace.runOn_sign, hsigned]

/-- A signed transaction is signed again with a text in capitals, and is left as it is where the
text has a letter too many, one outside ASCII. -/
theorem key_texts_sign_alike_again :
    ∃ (tx : Transaction) (secret : String) (keypair : Keypair),
      tx.signature.isSome = true ∧ Keypair.ofHex secret = .ok keypair
        ∧ keypair.secretHex = "9d61b19deffd5a60ba844af492ec2cc44449c5697b326919703bac031cae7f60"
        ∧ (InPlace.signHex secret).runOn tx
          = (.ok (), { tx with signature := some (keypair.sign tx.digest.bytes) })
        ∧ (InPlace.sign keypair).runOn tx = (InPlace.signHex secret).runOn tx
        ∧ (InPlace.signHex (secret ++ "é")).runOn tx
          = (.error (.signing malformedPrivateKey), tx) := by
  let tx : Transaction :=
    ⟨⟨Bytes.toBlock 32 [1]⟩, ⟨Bytes.toBlock 32 [2]⟩, 7, .nativeTransfer 100,
      some ⟨Bytes.toBlock 64 [3]⟩⟩
  let secret := "9D61B19DEFFD5A60BA844AF492EC2CC44449C5697B326919703BAC031CAE7F60"
  obtain ⟨-, ⟨-, hread⟩, hsigned, -⟩ := key_texts_sign_alike tx secret
  have hlength : secret.length = 64 := by decide +kernel
  have hdigits : ∀ c ∈ secret.toList, Hex.isDigit c = true :=
    List.all_eq_true.mp (by decide +kernel)
  obtain ⟨keypair, hkeypair⟩ := hread ⟨hlength, hdigits⟩
  obtain ⟨hleft, hsame, -, hlower⟩ := hsigned keypair hkeypair
  obtain ⟨-, ⟨hwhen, -⟩, -, hfailed, -⟩ := key_texts_sign_alike tx (secret ++ "é")
  refine ⟨tx, secret, keypair, rfl, hkeypair, hlower.trans ?_, hleft, hsame,
    (hfailed fun h => ?_).1⟩
  · decide +kernel
  · have hlength : (secret ++ "é").length ≠ 64 := by decide +kernel
    exact hlength (hwhen h).1

end Custody
