import Custody.Proofs.Sealed

/-!
# `Custody.Proofs.Sealed.Verdict`: what is said of a secret that does not open

What is stored is not to be trusted. The cost of a sealed secret may be any three numbers, its
salt and its ciphertext may be any texts, and several things may be wrong at once. `Verdict` has
the five answers, each with its condition. The conditions exclude each other, so every answer is
given just where its own condition holds (`openWith_verdict` and the equivalences behind it).

The cost is judged before anything is hashed. What is hashed is seen by a password hash that also
writes down what it is asked for (`recordedHash`). At a cost that cannot be met it is asked for
nothing, whatever else is wrong with the secret (`run_recorded_of_not_sealable`).
-/

set_option autoImplicit false

namespace Custody

open Crypto (Gcm.tagLength Gcm.tag Aes256.roundKeys)

/-! ### Ciphertexts -/

/-- The last bytes are the tag of those between the nonce and them. -/
def Tagged (key : Block 32) (data : Bytes) : Prop :=
  data.drop (data.length - Gcm.tagLength)
    = Gcm.tag (Aes256.roundKeys key) (Bytes.toBlock 12 data)
        ((data.take (data.length - Gcm.tagLength)).drop nonceLength)

section
variable {key : Block 32} {data : Bytes}

/-- Data without a whole nonce is too short. -/
theorem decryptWith_of_short (h : data.length < nonceLength) :
    decryptWith key data = .error .tooShort := if_pos h

/-- What comes behind the nonce is decrypted if it has room for a tag and ends in the right
one. -/
theorem decrypt?_isSome_iff :
    (Crypto.Gcm.decrypt? key (Bytes.toBlock 12 data) (data.drop nonceLength)).isSome = true
      ↔ nonceLength + Gcm.tagLength ≤ data.length ∧ Tagged key data := by
  have hfits : Gcm.tagLength ≤ (data.drop nonceLength).length
      ↔ nonceLength + Gcm.tagLength ≤ data.length := by
    rw [List.length_drop]
    unfold Gcm.tagLength
    omega
  unfold Crypto.Gcm.decrypt?
  simp only
  rw [Option.isSome_ite, hfits]
  refine and_congr_right fun hlong => ?_
  -- The tag and the ciphertext are the same, whether they are counted from the start or from
  -- behind the nonce.
  have hend : nonceLength + ((data.drop nonceLength).length - Gcm.tagLength)
      = data.length - Gcm.tagLength := by
    rw [List.length_drop]
    omega
  have hcipher : (data.drop nonceLength).take ((data.drop nonceLength).length - Gcm.tagLength)
      = (data.take (data.length - Gcm.tagLength)).drop nonceLength := by
    rw [List.drop_take, List.length_drop, Nat.sub_right_comm]
  unfold Tagged
  rw [List.drop_drop, hend, hcipher]

/-- Data that ends in its tag is decrypted. -/
theorem decryptWith_of_tagged (hlong : nonceLength + Gcm.tagLength ≤ data.length)
    (h : Tagged key data) : ∃ plaintext, decryptWith key data = .ok plaintext := by
  obtain ⟨plaintext, hplaintext⟩ :=
    Option.isSome_iff_exists.mp (decrypt?_isSome_iff.mpr ⟨hlong, h⟩)
  unfold decryptWith
  rw [if_neg (by omega), hplaintext]
  exact ⟨plaintext, rfl⟩

/-- Data without a tag, or with another one, is refused. -/
theorem decryptWith_of_untagged (hlong : nonceLength ≤ data.length)
    (h : data.length < nonceLength + Gcm.tagLength ∨ ¬ Tagged key data) :
    decryptWith key data = .error .refused := by
  have hnone : Crypto.Gcm.decrypt? key (Bytes.toBlock 12 data) (data.drop nonceLength) = none := by
    rw [← Option.not_isSome_iff_eq_none, decrypt?_isSome_iff]
    rintro ⟨hfits, htagged⟩
    rcases h with hshort | huntagged
    · omega
    · exact huntagged htagged
  unfold decryptWith
  rw [if_neg (by omega), hnone]

end

namespace Sealed

/-! ### The five answers -/

/-- The form is damaged: the salt is not in hexadecimal or has another length, or the ciphertext
is not in hexadecimal. -/
def Damaged (sealed : Sealed) : Prop :=
  (∀ salt, Text.Hex.decode sealed.salt ≠ .ok salt)
    ∨ (∃ salt, Text.Hex.decode sealed.salt = .ok salt ∧ salt.length ≠ Kdf.saltLength)
    ∨ ∀ data, Text.Hex.decode sealed.ciphertext ≠ .ok data

/-- A field of hexadecimal digits is read. -/
theorem field_eq_ok {text : String} {bytes : Bytes} (h : Text.Hex.decode text = .ok bytes) :
    field text = .ok bytes := by
  unfold field
  rw [h]

/-- Any other field is malformed. -/
theorem field_eq_error {text : String} (h : ∀ bytes, Text.Hex.decode text ≠ .ok bytes) :
    ∃ reason, field text = .error (.malformed reason) := by
  unfold field
  cases hdecode : Text.Hex.decode text with
  | error e => exact ⟨e.message, rfl⟩
  | ok bytes => exact absurd hdecode (h bytes)

/-- A form that is not damaged can be read. -/
theorem exists_reads {sealed : Sealed} (h : ¬ sealed.Damaged) :
    ∃ salt data, sealed.Reads salt data := by
  cases hsalt : Text.Hex.decode sealed.salt with
  | error e => exact absurd (.inl (by simp [hsalt])) h
  | ok salt =>
      cases hdata : Text.Hex.decode sealed.ciphertext with
      | error e => exact absurd (.inr (.inr (by simp [hdata]))) h
      | ok data =>
          by_cases hlength : salt.length = Kdf.saltLength
          · exact ⟨salt, data, hsalt, hlength, hdata⟩
          · exact absurd (.inr (.inl ⟨salt, hsalt, hlength⟩)) h

/-- A sealed text that reads is not damaged. -/
theorem Reads.not_damaged {sealed : Sealed} {salt data : Bytes} (h : sealed.Reads salt data) :
    ¬ sealed.Damaged := by
  rintro (hsalt | ⟨found, hfound, hlength⟩ | hdata)
  · exact hsalt salt h.decode_salt
  · rw [h.decode_salt] at hfound
    cases hfound
    exact hlength h.length_salt
  · exact hdata data h.decode_ciphertext

/-- A form can be read in one way. -/
theorem Reads.unique {sealed : Sealed} {salt data salt' data' : Bytes}
    (h : sealed.Reads salt data) (h' : sealed.Reads salt' data') : salt = salt' ∧ data = data' := by
  have hsalt := h.decode_salt.symm.trans h'.decode_salt
  have hdata := h.decode_ciphertext.symm.trans h'.decode_ciphertext
  exact ⟨Except.ok.inj hsalt, Except.ok.inj hdata⟩

/-- A damaged form is complained about, and nothing is hashed. -/
theorem openBy_of_damaged {sealed : Sealed} (h : sealed.Damaged) :
    ∃ reason, ∀ (m : Type → Type) [Monad m] (hash : Kdf.Hash m) (password : String),
      sealed.openBy hash password = pure (.error (.malformed reason)) := by
  unfold openBy
  cases hsalt : Text.Hex.decode sealed.salt with
  | error e =>
      obtain ⟨reason, hreason⟩ : ∃ reason, field sealed.salt = .error (.malformed reason) :=
        field_eq_error (by simp [hsalt])
      rw [hreason]
      exact ⟨reason, fun _ _ _ _ => rfl⟩
  | ok salt =>
      rw [field_eq_ok hsalt]
      simp only
      by_cases hlength : salt.length = Kdf.saltLength
      · obtain ⟨reason, hreason⟩ : ∃ reason, field sealed.ciphertext
            = .error (.malformed reason) := by
          rcases h with hnone | ⟨found, hfound, hother⟩ | hnone
          · exact absurd hsalt (hnone salt)
          · rw [hsalt] at hfound
            cases hfound
            exact absurd hlength hother
          · exact field_eq_error hnone
        refine ⟨reason, fun m _ hash password => ?_⟩
        rw [if_neg (not_not_intro hlength), hreason]
      · refine ⟨"salt is " ++ toString salt.length ++ " bytes", fun m _ hash password => ?_⟩
        rw [if_pos hlength]

/-- A damaged text is malformed, whatever the password. -/
theorem openWith_of_damaged {sealed : Sealed} (h : sealed.Damaged) :
    ∃ reason, ∀ password, sealed.openWith password = .error (.malformed reason) := by
  obtain ⟨reason, hreason⟩ := openBy_of_damaged h
  exact ⟨reason, hreason Id Kdf.argon2id⟩

/-- What is said when a password is tried, and when. -/
inductive Verdict (sealed : Sealed) (password : String) : Except Error Bytes → Prop where
  | malformed {reason : String} (damaged : sealed.Damaged) :
      Verdict sealed password (.error (.malformed reason))
  | cost {salt data : Bytes} {fault : Kdf.CostFault} (reads : sealed.Reads salt data)
      (unsealable : ¬ sealed.cost.Sealable) :
      Verdict sealed password (.error (.kdf (.cost fault)))
  | tooShort {salt data : Bytes} (reads : sealed.Reads salt data)
      (sealable : sealed.cost.Sealable) (short : data.length < nonceLength) :
      Verdict sealed password (.error .tooShort)
  | refused {salt data : Bytes} (reads : sealed.Reads salt data)
      (sealable : sealed.cost.Sealable) (long : nonceLength ≤ data.length)
      (untagged : data.length < nonceLength + Gcm.tagLength
        ∨ ¬ Tagged (Kdf.argon2id sealed.cost password salt) data) :
      Verdict sealed password (.error .refused)
  | opened {salt data plaintext : Bytes} (reads : sealed.Reads salt data)
      (sealable : sealed.cost.Sealable) (long : nonceLength + Gcm.tagLength ≤ data.length)
      (tagged : Tagged (Kdf.argon2id sealed.cost password salt) data)
      (decrypted : decryptWith (Kdf.argon2id sealed.cost password salt) data = .ok plaintext) :
      Verdict sealed password (.ok plaintext)

/-- Opening gives the verdict that the sealed text deserves. -/
theorem openWith_verdict (sealed : Sealed) (password : String) :
    Verdict sealed password (sealed.openWith password) := by
  by_cases hdamaged : sealed.Damaged
  · obtain ⟨reason, hreason⟩ := openWith_of_damaged hdamaged
    rw [hreason]
    exact .malformed hdamaged
  obtain ⟨salt, data, hreads⟩ := exists_reads hdamaged
  by_cases hcost : sealed.cost.Sealable
  · rw [openWith_of_sealable hreads password hcost]
    by_cases hshort : data.length < nonceLength
    · rw [decryptWith_of_short hshort]
      exact .tooShort hreads hcost hshort
    have hlong := Nat.not_lt.mp hshort
    by_cases hsound : nonceLength + Gcm.tagLength ≤ data.length
        ∧ Tagged (Kdf.argon2id sealed.cost password salt) data
    · obtain ⟨hfits, htagged⟩ := hsound
      obtain ⟨plaintext, hplaintext⟩ := decryptWith_of_tagged hfits htagged
      rw [hplaintext]
      exact .opened hreads hcost hfits htagged hplaintext
    · have huntagged : data.length < nonceLength + Gcm.tagLength
          ∨ ¬ Tagged (Kdf.argon2id sealed.cost password salt) data := by
        rw [← Nat.not_le]
        exact Classical.not_and_iff_not_or_not.mp hsound
      rw [decryptWith_of_untagged hlong huntagged]
      exact .refused hreads hcost hlong huntagged
  · obtain ⟨fault, hfault⟩ := openWith_of_not_sealable hreads hcost
    rw [hfault]
    exact .cost hreads hcost

section
variable {sealed : Sealed} {password : String} {salt data : Bytes}

/-- Only damaged texts are malformed. -/
theorem openWith_eq_malformed_iff :
    (∃ reason, sealed.openWith password = .error (.malformed reason)) ↔ sealed.Damaged := by
  constructor
  · rintro ⟨reason, h⟩
    have hverdict := openWith_verdict sealed password
    rw [h] at hverdict
    cases hverdict with
    | malformed damaged => exact damaged
  · intro hdamaged
    obtain ⟨reason, hreason⟩ := openWith_of_damaged hdamaged
    exact ⟨reason, hreason password⟩

variable (hreads : sealed.Reads salt data)

include hreads

/-- Only a cost that cannot be met is refused as such. -/
theorem openWith_eq_cost_iff :
    (∃ fault, sealed.openWith password = .error (.kdf (.cost fault)))
      ↔ ¬ sealed.cost.Sealable := by
  constructor
  · rintro ⟨fault, h⟩
    have hverdict := openWith_verdict sealed password
    rw [h] at hverdict
    cases hverdict with
    | cost _ unsealable => exact unsealable
  · intro hcost
    obtain ⟨fault, hfault⟩ := openWith_of_not_sealable hreads hcost
    exact ⟨fault, hfault password⟩

variable (hcost : sealed.cost.Sealable)

include hcost

/-- Only data without a whole nonce is too short. -/
theorem openWith_eq_tooShort_iff :
    sealed.openWith password = .error .tooShort ↔ data.length < nonceLength := by
  constructor
  · intro h
    have hverdict := openWith_verdict sealed password
    rw [h] at hverdict
    cases hverdict with
    | tooShort reads _ short =>
        obtain ⟨-, rfl⟩ := hreads.unique reads
        exact short
  · intro hshort
    rw [openWith_of_sealable hreads password hcost, decryptWith_of_short hshort]
    rfl

/-- Only data with a nonce and without its tag is refused. -/
theorem openWith_eq_refused_iff :
    sealed.openWith password = .error .refused
      ↔ nonceLength ≤ data.length ∧ (data.length < nonceLength + Gcm.tagLength
        ∨ ¬ Tagged (Kdf.argon2id sealed.cost password salt) data) := by
  constructor
  · intro h
    have hverdict := openWith_verdict sealed password
    rw [h] at hverdict
    cases hverdict with
    | refused reads _ long untagged =>
        obtain ⟨rfl, rfl⟩ := hreads.unique reads
        exact ⟨long, untagged⟩
  · rintro ⟨hlong, huntagged⟩
    rw [openWith_of_sealable hreads password hcost, decryptWith_of_untagged hlong huntagged]
    rfl

/-- In every other case there is a plaintext, and it is what was encrypted. -/
theorem openWith_of_tagged (hlong : nonceLength + Gcm.tagLength ≤ data.length)
    (h : Tagged (Kdf.argon2id sealed.cost password salt) data) :
    ∃ plaintext, sealed.openWith password = .ok plaintext
      ∧ encryptWith (Kdf.argon2id sealed.cost password salt) (Bytes.toBlock 12 data) plaintext
        = data := by
  obtain ⟨plaintext, hplaintext⟩ := decryptWith_of_tagged hlong h
  refine ⟨plaintext, ?_, encryptWith_of_decryptWith hplaintext⟩
  rw [openWith_of_sealable hreads password hcost, hplaintext]
  rfl

end

/-! ### What is hashed -/

/-- One use of the password hash. -/
structure Derivation where
  cost : Kdf.Cost
  password : String
  salt : Bytes
  deriving DecidableEq

/-- The password hash that also writes down what it is asked for. -/
def recordedHash : Kdf.Hash (StateM (List Derivation)) := fun cost password salt => do
  modify (· ++ [⟨cost, password, salt⟩])
  return Kdf.argon2id cost password salt

section
variable (password : String) {sealed : Sealed} {salt data : Bytes}

/-- At a cost that cannot be met, nothing is hashed, whatever else is wrong. -/
theorem run_recorded_of_not_sealable (h : ¬ sealed.cost.Sealable) :
    (sealed.openBy recordedHash password).run [] = (sealed.openWith password, []) := by
  by_cases hdamaged : sealed.Damaged
  · obtain ⟨reason, hreason⟩ := openBy_of_damaged hdamaged
    rw [openWith, hreason, hreason]
    rfl
  · obtain ⟨salt, data, hreads⟩ := exists_reads hdamaged
    obtain ⟨fault, hfault⟩ := openBy_of_not_sealable hreads h
    rw [openWith, hfault, hfault]
    rfl

/-- At any other cost the password is hashed once, if the form is whole. -/
theorem run_recorded_of_sealable (hreads : sealed.Reads salt data)
    (hcost : sealed.cost.Sealable) :
    (sealed.openBy recordedHash password).run []
      = (sealed.openWith password, [⟨sealed.cost, password, salt⟩]) := by
  rw [openBy_of_sealable hreads recordedHash password hcost,
    openWith_of_sealable hreads password hcost]
  rfl

end

end Sealed

end Custody
