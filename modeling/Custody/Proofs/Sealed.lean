import Custody.Proofs.Bytes
import Custody.Proofs.Crypto.Gcm
import Custody.Proofs.Text.Hex
import Custody.Record

/-!
# `Custody.Proofs.Sealed`: what was sealed under a password opens with it

What opening a sealed secret comes to is told for any password hash, which may live in a monad of
its own: the password is hashed once where the cost can be met (`Sealed.openBy_of_sealable`), and
not at all where it cannot (`Sealed.openBy_of_not_sealable`).

`Sealed.openWith_make`: a secret that was sealed opens with the password it was sealed under.
From it, `Record.make_spec`: the record of a key pair shows the key pair's identity, and the
password opens both its secrets. `Record.reseal_spec` says the same of a record that was sealed
again: whatever the old password opened, the new one opens.
-/

set_option autoImplicit false

namespace Custody

/-! ### Key pairs as texts -/

namespace Keypair

/-- The bytes of a secret key give back the key pair. -/
@[simp] theorem ofBytes_seed (keypair : Keypair) : ofBytes keypair.seed.bytes = .ok keypair := by
  rw [ofBytes, Bytes.toBlock?_bytes]

/-- A private key comes back from its hexadecimal form. -/
@[simp] theorem ofHex_secretHex (keypair : Keypair) : ofHex keypair.secretHex = .ok keypair := by
  rw [ofHex, secretHex, Text.Hex.decode_encode]
  exact ofBytes_seed keypair

end Keypair

/-! ### Ciphertexts -/

/-- What was encrypted under a key is decrypted under it. -/
theorem decryptWith_encryptWith (key : Block 32) (nonce : Block 12) (plaintext : Bytes) :
    decryptWith key (encryptWith key nonce plaintext) = .ok plaintext := by
  have hlength : ¬ (encryptWith key nonce plaintext).length < nonceLength := by
    rw [encryptWith, List.length_append, Block.length_bytes]
    unfold nonceLength
    omega
  -- The nonce stands in front, where the reader cuts it off.
  have hrest : (encryptWith key nonce plaintext).drop nonceLength
      = Crypto.Gcm.encrypt key nonce plaintext :=
    List.drop_left' (Block.length_bytes nonce)
  have hnonce : Bytes.toBlock 12 (encryptWith key nonce plaintext) = nonce :=
    Bytes.toBlock_append nonce _
  unfold decryptWith
  rw [if_neg hlength, hrest, hnonce, Crypto.Gcm.decrypt?_encrypt]

/-- What is decrypted was encrypted, with the nonce that stands in front. -/
theorem encryptWith_of_decryptWith {key : Block 32} {data plaintext : Bytes}
    (h : decryptWith key data = .ok plaintext) :
    encryptWith key (Bytes.toBlock 12 data) plaintext = data := by
  unfold decryptWith at h
  split at h
  · cases h
  · rename_i hlength
    cases hdecrypt : Crypto.Gcm.decrypt? key (Bytes.toBlock 12 data) (data.drop nonceLength) with
    | none =>
        rw [hdecrypt] at h
        cases h
    | some found =>
        rw [hdecrypt] at h
        cases h
        have hnonce : (Bytes.toBlock 12 data).bytes = data.take nonceLength :=
          Bytes.bytes_toBlock_of_le (Nat.not_lt.mp hlength)
        rw [encryptWith, Crypto.Gcm.encrypt_of_decrypt? hdecrypt, hnonce]
        exact List.take_append_drop nonceLength data

/-- What is encrypted grows by a nonce and a tag. -/
theorem length_encryptWith (key : Block 32) (nonce : Block 12) (plaintext : Bytes) :
    (encryptWith key nonce plaintext).length
      = nonceLength + plaintext.length + Crypto.Gcm.tagLength := by
  rw [encryptWith, List.length_append, Block.length_bytes, Crypto.Gcm.length_encrypt, Nat.add_assoc]
  rfl

/-! ### Costs and keys -/

namespace Kdf

namespace Cost

/-- The costs at which secrets can be sealed. -/
def Sealable (cost : Cost) : Prop :=
  1 ≤ cost.lanes.toNat ∧ cost.lanes.toNat ≤ maxLanes
    ∧ 1 ≤ cost.passes.toNat ∧ cost.passes.toNat ≤ maxPasses
    ∧ 8 * cost.lanes.toNat ≤ cost.memory.toNat ∧ cost.memory.toNat ≤ maxMemory

/-- Six comparisons decide it. -/
instance (cost : Cost) : Decidable cost.Sealable :=
  inferInstanceAs (Decidable (_ ∧ _))

/-- The ceilings let through what is below all three. -/
theorem checkCeilings_eq_ok {cost : Cost} :
    cost.checkCeilings = .ok () ↔ cost.memory.toNat ≤ maxMemory
      ∧ cost.passes.toNat ≤ maxPasses ∧ cost.lanes.toNat ≤ maxLanes := by
  unfold checkCeilings
  split
  · simp only [reduceCtorEq, false_iff]
    omega
  split
  · simp only [reduceCtorEq, false_iff]
    omega
  split
  · simp only [reduceCtorEq, false_iff]
    omega
  · simp only [true_iff]
    omega

/-- The floors let through what is above them. -/
theorem checkFloors_eq_ok {cost : Cost} :
    cost.checkFloors = .ok () ↔ 1 ≤ cost.lanes.toNat ∧ 1 ≤ cost.passes.toNat
      ∧ 8 * cost.lanes.toNat ≤ cost.memory.toNat := by
  unfold checkFloors
  split
  · simp only [reduceCtorEq, false_iff]
    omega
  split
  · simp only [reduceCtorEq, false_iff]
    omega
  split
  · simp only [reduceCtorEq, false_iff]
    omega
  · simp only [true_iff]
    omega

/-- Secrets can be sealed at the costs that pass both checks. -/
theorem sealable_iff {cost : Cost} :
    cost.Sealable ↔ cost.checkCeilings = .ok () ∧ cost.checkFloors = .ok () := by
  rw [checkCeilings_eq_ok, checkFloors_eq_ok]
  unfold Sealable
  omega

end Cost

section
variable {salt : Bytes} (hsalt : salt.length = saltLength) {cost : Cost}

include hsalt

/-- At a cost that cannot be met, nothing is hashed. -/
theorem deriveKeyBy_of_not_sealable (hcost : ¬ cost.Sealable) :
    ∃ fault, ∀ (m : Type → Type) [Monad m] (hash : Hash m) (password : String),
      deriveKeyBy hash password salt cost = pure (.error (.cost fault)) := by
  obtain ⟨fault, hfault⟩ : ∃ fault, cost.checkCeilings = .error fault
      ∨ cost.checkCeilings = .ok () ∧ cost.checkFloors = .error fault := by
    cases hceilings : cost.checkCeilings with
    | error fault => exact ⟨fault, .inl rfl⟩
    | ok =>
        cases hfloors : cost.checkFloors with
        | error fault => exact ⟨fault, .inr ⟨rfl, rfl⟩⟩
        | ok => exact absurd (Cost.sealable_iff.mpr ⟨hceilings, hfloors⟩) hcost
  refine ⟨fault, fun m _ hash password => ?_⟩
  unfold deriveKeyBy
  rw [if_neg (not_not_intro hsalt)]
  rcases hfault with hceilings | ⟨hceilings, hfloors⟩
  · rw [hceilings]
  · rw [hceilings, hfloors]

/-- At any other cost, the key is what the password hash gives. -/
theorem deriveKeyBy_of_sealable {m : Type → Type} [Monad m] [LawfulMonad m] (hash : Hash m)
    (password : String) (hcost : cost.Sealable) :
    deriveKeyBy hash password salt cost = Except.ok <$> hash cost password salt := by
  obtain ⟨hceilings, hfloors⟩ := Cost.sealable_iff.mp hcost
  unfold deriveKeyBy
  rw [if_neg (not_not_intro hsalt), hceilings, hfloors, map_eq_pure_bind]

/-- A key is derived under any password, if the salt has its length and the cost can be met. -/
theorem deriveKey_of_sealable (password : String) (hcost : cost.Sealable) :
    deriveKey password salt cost = .ok (argon2id cost password salt) :=
  deriveKeyBy_of_sealable (m := Id) hsalt argon2id password hcost

/-- At a cost that cannot be met, no key is derived. -/
theorem deriveKey_of_not_sealable (hcost : ¬ cost.Sealable) :
    ∃ fault, ∀ password, deriveKey password salt cost = .error (.cost fault) := by
  obtain ⟨fault, hfault⟩ := deriveKeyBy_of_not_sealable hsalt hcost
  exact ⟨fault, hfault Id argon2id⟩

end

end Kdf

/-! ### Sealed secrets -/

namespace Sealed

/-- The form is whole: the salt and the ciphertext are these bytes. -/
structure Reads (sealed : Sealed) (salt data : Bytes) : Prop where
  decode_salt : Text.Hex.decode sealed.salt = .ok salt
  length_salt : salt.length = Kdf.saltLength
  decode_ciphertext : Text.Hex.decode sealed.ciphertext = .ok data

section
variable {sealed : Sealed} {salt data : Bytes} (hreads : sealed.Reads salt data)

include hreads

/-- Where the cost can be met, the password is hashed once, and the rest is decryption. -/
theorem openBy_of_sealable {m : Type → Type} [Monad m] [LawfulMonad m] (hash : Kdf.Hash m)
    (password : String) (hcost : sealed.cost.Sealable) :
    sealed.openBy hash password
      = (fun key => (decryptWith key data).mapError .ofDecrypt)
        <$> hash sealed.cost password salt := by
  unfold openBy field
  simp only [hreads.decode_salt, hreads.decode_ciphertext]
  rw [if_neg (not_not_intro hreads.length_salt),
    Kdf.deriveKeyBy_of_sealable hreads.length_salt hash password hcost, bind_map_left,
    map_eq_pure_bind]
  congr 1
  funext key
  cases hdecrypt : decryptWith key data with
  | error e => simp only [hdecrypt]; rfl
  | ok plaintext => simp only [hdecrypt]; rfl

/-- Where it cannot, nothing is hashed. -/
theorem openBy_of_not_sealable (hcost : ¬ sealed.cost.Sealable) :
    ∃ fault, ∀ (m : Type → Type) [Monad m] [LawfulMonad m] (hash : Kdf.Hash m)
      (password : String),
      sealed.openBy hash password = pure (.error (.kdf (.cost fault))) := by
  obtain ⟨fault, hfault⟩ := Kdf.deriveKeyBy_of_not_sealable hreads.length_salt hcost
  refine ⟨fault, fun m _ _ hash password => ?_⟩
  unfold openBy field
  simp only [hreads.decode_salt, hreads.decode_ciphertext]
  rw [if_neg (not_not_intro hreads.length_salt), hfault, pure_bind]

/-- At a cost that can be met, the key under the password decrypts. -/
theorem openWith_of_sealable (password : String) (hcost : sealed.cost.Sealable) :
    sealed.openWith password
      = (decryptWith (Kdf.argon2id sealed.cost password salt) data).mapError .ofDecrypt :=
  openBy_of_sealable (m := Id) hreads Kdf.argon2id password hcost

/-- At any other cost, every password is refused for the same reason. -/
theorem openWith_of_not_sealable (hcost : ¬ sealed.cost.Sealable) :
    ∃ fault, ∀ password, sealed.openWith password = .error (.kdf (.cost fault)) := by
  obtain ⟨fault, hfault⟩ := openBy_of_not_sealable hreads hcost
  exact ⟨fault, hfault Id Kdf.argon2id⟩

end

/-- As many bytes are drawn as were asked for. -/
@[simp] theorem length_draw (count : Nat) (tape : Tape) : (tape.draw count).1.length = count := by
  simp [Tape.draw]

/-- A secret is sealed under any password, if the cost can be met. -/
theorem make_of_sealable (password : String) (plaintext : Bytes) {cost : Kdf.Cost}
    (hcost : cost.Sealable) (tape : Tape) :
    ∃ salt nonce after, salt.length = Kdf.saltLength
      ∧ make password plaintext cost tape
        = (.ok ⟨cost, Text.Hex.encode salt,
            Text.Hex.encode (encryptWith (Kdf.argon2id cost password salt) nonce plaintext)⟩,
          after) := by
  have hsalt := length_draw Kdf.saltLength tape
  unfold make
  simp only [Kdf.deriveKey_of_sealable hsalt password hcost]
  exact ⟨_, _, _, hsalt, rfl⟩

/-- At a cost that can be met, sealing succeeds. -/
theorem make_eq_ok (password : String) (plaintext : Bytes) {cost : Kdf.Cost}
    (hcost : cost.Sealable) (tape : Tape) :
    ∃ sealed after, make password plaintext cost tape = (.ok sealed, after) := by
  obtain ⟨salt, nonce, after, -, hmake⟩ := make_of_sealable password plaintext hcost tape
  exact ⟨_, after, hmake⟩

/-- At a cost that cannot be met, nothing is sealed. -/
theorem make_of_not_sealable (password : String) (plaintext : Bytes) {cost : Kdf.Cost}
    (hcost : ¬ cost.Sealable) (tape : Tape) :
    ∃ fault, make password plaintext cost tape
      = (.error (.kdf (.cost fault)), (tape.draw Kdf.saltLength).2) := by
  obtain ⟨fault, hfault⟩ := Kdf.deriveKey_of_not_sealable (length_draw Kdf.saltLength tape) hcost
  unfold make
  simp only [hfault]
  exact ⟨fault, rfl⟩

section
variable {password : String} {plaintext : Bytes} {cost : Kdf.Cost} {tape after : Tape}
  {sealed : Sealed} (h : make password plaintext cost tape = (.ok sealed, after))

include h

/-- A secret was sealed at a cost that can be met, and carries this cost. -/
theorem cost_of_make : cost.Sealable ∧ sealed.cost = cost := by
  by_cases hcost : cost.Sealable
  · obtain ⟨salt, nonce, left, -, hmake⟩ := make_of_sealable password plaintext hcost tape
    rw [hmake] at h
    cases h
    exact ⟨hcost, rfl⟩
  · obtain ⟨fault, hfault⟩ := make_of_not_sealable password plaintext hcost tape
    rw [hfault] at h
    cases h

/-- A sealed secret opens with the password that it was sealed under. -/
theorem openWith_make : sealed.openWith password = .ok plaintext := by
  obtain ⟨hcost, -⟩ := cost_of_make h
  obtain ⟨salt, nonce, left, hsalt, hmake⟩ := make_of_sealable password plaintext hcost tape
  rw [hmake] at h
  cases h
  -- The salt and the ciphertext come back from hexadecimal, so the same key is derived again.
  have hreads : Reads ⟨cost, Text.Hex.encode salt,
      Text.Hex.encode (encryptWith (Kdf.argon2id cost password salt) nonce plaintext)⟩ salt
      (encryptWith (Kdf.argon2id cost password salt) nonce plaintext) :=
    ⟨Text.Hex.decode_encode _, hsalt, Text.Hex.decode_encode _⟩
  rw [openWith_of_sealable hreads password hcost, decryptWith_encryptWith]
  rfl

end

end Sealed

/-! ### Records -/

namespace Record

/-- The password opens the private key of this record, and it is `keypair`. -/
def Opens (record : Record) (password : String) (keypair : Keypair) (phrase : Option String) :
    Prop :=
  record.openKeypair password = .ok keypair
    ∧ record.openPhrase password = match phrase with
      | none => .error .noPhrase
      | some phrase => .ok phrase

/-- A password opens one key pair and one phrase. -/
theorem Opens.unique {record : Record} {password : String} {keypair found : Keypair}
    {phrase phrase' : Option String} (h : record.Opens password keypair phrase)
    (h' : record.Opens password found phrase') : keypair = found ∧ phrase = phrase' := by
  obtain ⟨hkey, hphrase⟩ := h
  obtain ⟨hkey', hphrase'⟩ := h'
  rw [hkey] at hkey'
  rw [hphrase] at hphrase'
  constructor
  · exact Except.ok.inj hkey'
  · cases phrase <;> cases phrase' <;> cases hphrase' <;> rfl

/-- What the record shows in the open is the identity of a key pair. -/
structure Shows (record : Record) (keypair : Keypair) : Prop where
  version : record.version = recordVersion
  address : record.address = keypair.publicKey.toHex
  publicKey : record.publicKey = keypair.publicKey.toHex

/-- A sealed seed opens to the key pair, if the record shows the key pair. -/
theorem openKeypair_eq_ok {record : Record} {password : String} {keypair : Keypair}
    (hopen : record.privateKey.openWith password = .ok keypair.seed.bytes)
    (hshown : record.publicKey = keypair.publicKey.toHex) :
    record.openKeypair password = .ok keypair := by
  unfold openKeypair
  simp only [hopen, Keypair.ofBytes_seed, hshown, if_true]

/-- The key pair that a password opens is the one that the record shows. -/
theorem publicKey_of_openKeypair {record : Record} {password : String} {keypair : Keypair}
    (h : record.openKeypair password = .ok keypair) :
    keypair.publicKey.toHex = record.publicKey := by
  unfold openKeypair at h
  split at h
  · cases h
  split at h
  · cases h
  split at h
  · rename_i hshown
    cases h
    exact hshown
  · cases h

/-- How the phrase of a record is sealed, if there is one. -/
inductive SealsPhrase (password : String) (cost : Kdf.Cost) (tape : Tape) :
    Option String → Option Sealed → Prop where
  | absent : SealsPhrase password cost tape none none
  | made {phrase : String} {sealed : Sealed} {after : Tape}
      (make : Sealed.make password (Bytes.ofText phrase) cost tape = (.ok sealed, after)) :
      SealsPhrase password cost tape (some phrase) (some sealed)

section
variable {keypair : Keypair} {phrase : Option String} {password : String} {cost : Kdf.Cost}
  {createdAt : Time.Instant} {tape after : Tape} {record : Record}

/-- The secrets of a record are sealed one after the other. -/
theorem sealSecrets_eq_ok {privateKey : Sealed} {sealedPhrase : Option Sealed}
    (h : sealSecrets keypair phrase password cost tape = (.ok (privateKey, sealedPhrase), after)) :
    ∃ between, Sealed.make password keypair.seed.bytes cost tape = (.ok privateKey, between)
      ∧ SealsPhrase password cost between phrase sealedPhrase := by
  unfold sealSecrets at h
  cases hkey : Sealed.make password keypair.seed.bytes cost tape with
  | mk result between =>
      cases result with
      | error e =>
          simp only [hkey] at h
          cases h
      | ok sealedKey =>
          simp only [hkey] at h
          cases phrase with
          | none =>
              cases h
              exact ⟨_, rfl, .absent⟩
          | some phrase =>
              cases hphrase : Sealed.make password (Bytes.ofText phrase) cost between with
              | mk result last =>
                  cases result with
                  | error e =>
                      simp only [hphrase] at h
                      cases h
                  | ok sealed =>
                      simp only [hphrase] at h
                      cases h
                      exact ⟨between, rfl, .made hphrase⟩

/-- The secrets can be sealed, if the cost can be met. -/
theorem sealSecrets_of_sealable (keypair : Keypair) (phrase : Option String) (password : String)
    (hcost : cost.Sealable) (tape : Tape) :
    ∃ secrets after, sealSecrets keypair phrase password cost tape = (.ok secrets, after) := by
  obtain ⟨privateKey, between, hkey⟩ := Sealed.make_eq_ok password keypair.seed.bytes hcost tape
  unfold sealSecrets
  simp only [hkey]
  cases phrase with
  | none => exact ⟨_, _, rfl⟩
  | some phrase =>
      obtain ⟨sealed, last, hphrase⟩ :=
        Sealed.make_eq_ok password (Bytes.ofText phrase) hcost between
      simp only [hphrase]
      exact ⟨_, _, rfl⟩

/-- The record of a key pair is its identity, with the sealed secrets. -/
theorem make_eq_ok_iff :
    make keypair phrase password cost createdAt tape = (.ok record, after)
      ↔ ∃ privateKey sealedPhrase,
        sealSecrets keypair phrase password cost tape = (.ok (privateKey, sealedPhrase), after)
          ∧ record = ⟨recordVersion, keypair.address, keypair.publicKey.toHex, privateKey,
            sealedPhrase, createdAt⟩ := by
  unfold make
  cases hseal : sealSecrets keypair phrase password cost tape with
  | mk result last =>
      cases result with
      | error e =>
          constructor
          · intro h
            cases h
          · rintro ⟨_, _, h, -⟩
            cases h
      | ok secrets =>
          constructor
          · intro h
            cases h
            exact ⟨_, _, rfl, rfl⟩
          · rintro ⟨privateKey, sealedPhrase, h, rfl⟩
            cases h
            rfl

/-- The record of a key pair is made, if the cost can be met. -/
theorem make_eq_ok (keypair : Keypair) (phrase : Option String) (password : String)
    (hcost : cost.Sealable) (createdAt : Time.Instant) (tape : Tape) :
    ∃ record after, make keypair phrase password cost createdAt tape = (.ok record, after) := by
  obtain ⟨⟨privateKey, sealedPhrase⟩, after, hseal⟩ :=
    sealSecrets_of_sealable keypair phrase password hcost tape
  exact ⟨_, after, make_eq_ok_iff.mpr ⟨privateKey, sealedPhrase, hseal, rfl⟩⟩

/-- The record of a key pair shows its identity, and the password opens both secrets. -/
theorem make_spec (h : make keypair phrase password cost createdAt tape = (.ok record, after)) :
    record.Shows keypair ∧ record.Opens password keypair phrase := by
  obtain ⟨privateKey, sealedPhrase, hseal, rfl⟩ := make_eq_ok_iff.mp h
  obtain ⟨between, hkey, hphrase⟩ := sealSecrets_eq_ok hseal
  refine ⟨⟨rfl, rfl, rfl⟩, openKeypair_eq_ok (Sealed.openWith_make hkey) rfl, ?_⟩
  -- The phrase is sealed under the same password, with randomness of its own.
  cases hphrase with
  | absent => rfl
  | made hmake =>
      unfold openPhrase
      simp only [Sealed.openWith_make hmake, Bytes.toText?_ofText]

/-- Both secrets of a record are sealed at this cost. -/
structure SealedAt (record : Record) (cost : Kdf.Cost) : Prop where
  privateKey : record.privateKey.cost = cost
  phrase : ∀ sealed, record.phrase = some sealed → sealed.cost = cost

/-- The record of a key pair has a phrase if one was given. It says when it was made, and it is
sealed at the cost that was asked for, which is one that can be met. -/
theorem make_sealedAt
    (h : make keypair phrase password cost createdAt tape = (.ok record, after)) :
    record.SealedAt cost ∧ cost.Sealable ∧ record.createdAt = createdAt
      ∧ record.hasPhrase = phrase.isSome := by
  obtain ⟨privateKey, sealedPhrase, hseal, rfl⟩ := make_eq_ok_iff.mp h
  obtain ⟨between, hkey, hphrase⟩ := sealSecrets_eq_ok hseal
  obtain ⟨hcost, hkeyCost⟩ := Sealed.cost_of_make hkey
  cases hphrase with
  | absent => exact ⟨⟨hkeyCost, by rintro _ ⟨⟩⟩, hcost, rfl, rfl⟩
  | made hmake =>
      refine ⟨⟨hkeyCost, ?_⟩, hcost, rfl, rfl⟩
      rintro _ ⟨⟩
      exact (Sealed.cost_of_make hmake).2

end

/-- The secrets that a password opens. A record without a phrase is no failure. -/
theorem openSecrets_eq_ok_iff {record : Record} {password : String} {keypair : Keypair}
    {phrase : Option String} :
    record.openSecrets password = .ok (keypair, phrase)
      ↔ record.Opens password keypair phrase := by
  unfold openSecrets Opens
  cases hkey : record.openKeypair password with
  | error e => simp
  | ok found =>
      cases hphrase : record.openPhrase password with
      | ok text => cases phrase <;> simp
      | error e => cases e <;> cases phrase <;> simp

/-- A record is sealed again if the old password opens it and the cost can be met. -/
theorem reseal_eq_ok_iff {record resealed : Record} {old new : String} {cost : Kdf.Cost}
    {tape after : Tape} :
    record.reseal old new cost tape = (.ok resealed, after)
      ↔ ∃ keypair phrase, record.Opens old keypair phrase
        ∧ make keypair phrase new cost record.createdAt tape = (.ok resealed, after) := by
  unfold reseal
  cases hopen : record.openSecrets old with
  | error e =>
      constructor
      · intro h
        cases h
      · rintro ⟨keypair, phrase, hopens, -⟩
        rw [openSecrets_eq_ok_iff.mpr hopens] at hopen
        cases hopen
  | ok secrets =>
      obtain ⟨keypair, phrase⟩ := secrets
      have hopens := openSecrets_eq_ok_iff.mp hopen
      constructor
      · intro h
        exact ⟨keypair, phrase, hopens, h⟩
      · rintro ⟨found, phrase', hopens', h⟩
        obtain ⟨rfl, rfl⟩ := hopens.unique hopens'
        exact h

/-- A record that was sealed again shows the same identity, and the new password opens what
the old one opened. -/
theorem reseal_spec {record resealed : Record} {old new : String} {cost : Kdf.Cost}
    {tape after : Tape} (h : record.reseal old new cost tape = (.ok resealed, after)) :
    ∃ keypair phrase, record.Opens old keypair phrase ∧ resealed.Shows keypair
      ∧ resealed.Opens new keypair phrase := by
  obtain ⟨keypair, phrase, hopens, hmake⟩ := reseal_eq_ok_iff.mp h
  obtain ⟨hshows, hopens'⟩ := make_spec hmake
  exact ⟨keypair, phrase, hopens, hshows, hopens'⟩

end Record

end Custody
