import Custody.Proofs.Sealed.Verdict

/-!
# `Custody.Proofs.Sealed.Opening`: what a record says of its secrets

A record passes on what is said of its sealed secrets. A key that does not fit means that the
password is wrong, and every other failure that the record is corrupt. What has been opened can
still be wrong: the private key can be of another length or of somebody else, and the phrase may
not be text.

`KeypairVerdict` and `PhraseVerdict` have the answers with their conditions, as `Sealed.Verdict`
has those of a secret. `opening_tells_what_is_wrong` says of all three that each answer is given
just where its condition holds.
-/

set_option autoImplicit false

namespace Custody

namespace Record

/-- The secret is not the private key of what the record shows: it is of another length, or the
key of somebody else. -/
def Mismatched (record : Record) (secret : Bytes) : Prop :=
  secret.length ≠ 32
    ∨ ∃ keypair : Keypair, keypair.seed.bytes = secret
      ∧ keypair.publicKey.toHex ≠ record.publicKey

/-- What is said when a password is tried on the private key, and when. -/
inductive KeypairVerdict (record : Record) (password : String) :
    Except WalletError Keypair → Prop where
  | wrongPassword (unopened : record.privateKey.openWith password = .error .refused) :
      KeypairVerdict record password (.error .invalidPassword)
  | damaged {e : Sealed.Error} {fault : RecordFault} (other : e ≠ .refused)
      (unopened : record.privateKey.openWith password = .error e) :
      KeypairVerdict record password (.error (.corruptRecord fault))
  | mismatched {secret : Bytes} {fault : RecordFault}
      (opened : record.privateKey.openWith password = .ok secret)
      (mismatched : record.Mismatched secret) :
      KeypairVerdict record password (.error (.corruptRecord fault))
  | opened {keypair : Keypair}
      (opened : record.privateKey.openWith password = .ok keypair.seed.bytes)
      (shown : keypair.publicKey.toHex = record.publicKey) :
      KeypairVerdict record password (.ok keypair)

/-- What is said when a password is tried on the phrase, and when. -/
inductive PhraseVerdict (record : Record) (password : String) :
    Except WalletError String → Prop where
  | absent (absent : record.phrase = none) : PhraseVerdict record password (.error .noPhrase)
  | wrongPassword {sealed : Sealed} (kept : record.phrase = some sealed)
      (unopened : sealed.openWith password = .error .refused) :
      PhraseVerdict record password (.error .invalidPassword)
  | damaged {sealed : Sealed} {e : Sealed.Error} {fault : RecordFault}
      (kept : record.phrase = some sealed) (other : e ≠ .refused)
      (unopened : sealed.openWith password = .error e) :
      PhraseVerdict record password (.error (.corruptRecord fault))
  | garbled {sealed : Sealed} {bytes : Bytes} {fault : RecordFault}
      (kept : record.phrase = some sealed) (opened : sealed.openWith password = .ok bytes)
      (garbled : Bytes.toText? bytes = none) :
      PhraseVerdict record password (.error (.corruptRecord fault))
  | opened {sealed : Sealed} {bytes : Bytes} {phrase : String}
      (kept : record.phrase = some sealed) (opened : sealed.openWith password = .ok bytes)
      (spelled : Bytes.toText? bytes = some phrase) :
      PhraseVerdict record password (.ok phrase)

/-- Every failure to open but one means that the record is corrupt. -/
theorem ofOpening_of_ne_refused {e : Sealed.Error} (h : e ≠ .refused) :
    ∃ fault, WalletError.ofOpening e = .corruptRecord fault := by
  cases e with
  | refused => exact absurd rfl h
  | malformed reason => exact ⟨_, rfl⟩
  | kdf e => exact ⟨_, rfl⟩
  | tooShort => exact ⟨_, rfl⟩

variable (record : Record) (password : String)

/-- Opening the key of a record gives the verdict of its sealed text. -/
theorem openKeypair_verdict : KeypairVerdict record password (record.openKeypair password) := by
  unfold openKeypair
  cases hopen : record.privateKey.openWith password with
  | error e =>
      simp only
      by_cases hrefused : e = .refused
      · rw [hrefused] at hopen ⊢
        exact .wrongPassword hopen
      · obtain ⟨fault, hfault⟩ := ofOpening_of_ne_refused hrefused
        rw [hfault]
        exact .damaged hrefused hopen
  | ok secret =>
      simp only
      unfold Keypair.ofBytes
      cases hblock : secret.toBlock? 32 with
      | none => exact .mismatched hopen (.inl (Bytes.toBlock?_eq_none_iff.mp hblock))
      | some seed =>
          simp only
          have hseed := Bytes.bytes_of_toBlock? hblock
          by_cases hshown : (Keypair.mk seed).publicKey.toHex = record.publicKey
          · rw [if_pos hshown]
            rw [← hseed] at hopen
            exact .opened hopen hshown
          · rw [if_neg hshown]
            exact .mismatched hopen (.inr ⟨⟨seed⟩, hseed, hshown⟩)

/-- Opening the phrase of a record gives the verdict of its sealed text, if it has one. -/
theorem openPhrase_verdict : PhraseVerdict record password (record.openPhrase password) := by
  unfold openPhrase
  cases hphrase : record.phrase with
  | none => exact .absent hphrase
  | some sealed =>
      simp only
      cases hopen : sealed.openWith password with
      | error e =>
          simp only
          by_cases hrefused : e = .refused
          · rw [hrefused] at hopen ⊢
            exact .wrongPassword hphrase hopen
          · obtain ⟨fault, hfault⟩ := ofOpening_of_ne_refused hrefused
            rw [hfault]
            exact .damaged hphrase hrefused hopen
      | ok bytes =>
          simp only
          cases htext : Bytes.toText? bytes with
          | none => exact .garbled hphrase hopen htext
          | some phrase => exact .opened hphrase hopen htext

variable {record password}

/-- The password is blamed if the sealed text refuses it. -/
theorem openKeypair_eq_invalidPassword_iff :
    record.openKeypair password = .error .invalidPassword
      ↔ record.privateKey.openWith password = .error .refused := by
  constructor
  · intro h
    have hverdict := openKeypair_verdict record password
    rw [h] at hverdict
    cases hverdict with
    | wrongPassword unopened => exact unopened
  · intro h
    unfold openKeypair
    rw [h]
    rfl

/-- A key pair is opened if the text holds its secret and the record shows its public key. -/
theorem openKeypair_eq_ok_iff {keypair : Keypair} :
    record.openKeypair password = .ok keypair
      ↔ record.privateKey.openWith password = .ok keypair.seed.bytes
        ∧ keypair.publicKey.toHex = record.publicKey := by
  constructor
  · intro h
    have hverdict := openKeypair_verdict record password
    rw [h] at hverdict
    cases hverdict with
    | opened opened shown => exact ⟨opened, shown⟩
  · rintro ⟨hopen, hshown⟩
    exact openKeypair_eq_ok hopen hshown.symm

/-- The record is blamed if the text is damaged in another way, or holds a secret of another key.
-/
theorem openKeypair_eq_corruptRecord_iff :
    (∃ fault, record.openKeypair password = .error (.corruptRecord fault))
      ↔ (∃ e, e ≠ .refused ∧ record.privateKey.openWith password = .error e)
        ∨ ∃ secret, record.privateKey.openWith password = .ok secret
          ∧ record.Mismatched secret := by
  have hverdict := openKeypair_verdict record password
  constructor
  · rintro ⟨fault, h⟩
    rw [h] at hverdict
    cases hverdict with
    | damaged other unopened => exact .inl ⟨_, other, unopened⟩
    | mismatched opened mismatched => exact .inr ⟨_, opened, mismatched⟩
  · intro h
    generalize record.openKeypair password = result at hverdict
    cases hverdict with
    | wrongPassword unopened =>
        rcases h with ⟨e, hne, hopen⟩ | ⟨secret, hopen, -⟩
        · rw [unopened] at hopen
          cases hopen
          exact absurd rfl hne
        · rw [unopened] at hopen
          cases hopen
    | damaged => exact ⟨_, rfl⟩
    | mismatched => exact ⟨_, rfl⟩
    | @opened keypair opened shown =>
        rcases h with ⟨e, -, hopen⟩ | ⟨secret, hopen, hmismatched⟩
        · rw [opened] at hopen
          cases hopen
        · rw [opened] at hopen
          cases hopen
          -- The seed has its length, and is the seed of one key pair.
          rcases hmismatched with hlength | ⟨other, hother, hshown⟩
          · exact absurd (Block.length_bytes keypair.seed) hlength
          · have hsame : other = keypair := congrArg Keypair.mk (Block.bytes_inj.mp hother)
            rw [hsame] at hshown
            exact absurd shown hshown

/-- There is no phrase to open if none was kept. -/
theorem openPhrase_eq_noPhrase_iff :
    record.openPhrase password = .error .noPhrase ↔ record.phrase = none := by
  constructor
  · intro h
    have hverdict := openPhrase_verdict record password
    rw [h] at hverdict
    cases hverdict with
    | absent absent => exact absent
  · intro h
    unfold openPhrase
    rw [h]

section
variable {sealed : Sealed} (hkept : record.phrase = some sealed)

include hkept

/-- The password is blamed if the sealed text refuses it. -/
theorem openPhrase_eq_invalidPassword_iff :
    record.openPhrase password = .error .invalidPassword
      ↔ sealed.openWith password = .error .refused := by
  constructor
  · intro h
    have hverdict := openPhrase_verdict record password
    rw [h] at hverdict
    cases hverdict with
    | wrongPassword kept unopened =>
        rw [hkept] at kept
        cases kept
        exact unopened
  · intro h
    unfold openPhrase
    simp only [hkept, h]
    rfl

/-- A phrase is opened if the sealed bytes spell it. -/
theorem openPhrase_eq_ok_iff {phrase : String} :
    record.openPhrase password = .ok phrase
      ↔ ∃ bytes, sealed.openWith password = .ok bytes ∧ Bytes.toText? bytes = some phrase := by
  constructor
  · intro h
    have hverdict := openPhrase_verdict record password
    rw [h] at hverdict
    cases hverdict with
    | opened kept opened spelled =>
        rw [hkept] at kept
        cases kept
        exact ⟨_, opened, spelled⟩
  · rintro ⟨bytes, hopen, hspelled⟩
    unfold openPhrase
    simp only [hkept, hopen, hspelled]

/-- The record is blamed if the text is damaged in another way, or spells nothing. -/
theorem openPhrase_eq_corruptRecord_iff :
    (∃ fault, record.openPhrase password = .error (.corruptRecord fault))
      ↔ (∃ e, e ≠ .refused ∧ sealed.openWith password = .error e)
        ∨ ∃ bytes, sealed.openWith password = .ok bytes ∧ Bytes.toText? bytes = none := by
  constructor
  · rintro ⟨fault, h⟩
    have hverdict := openPhrase_verdict record password
    rw [h] at hverdict
    cases hverdict with
    | damaged kept other unopened =>
        rw [hkept] at kept
        cases kept
        exact .inl ⟨_, other, unopened⟩
    | garbled kept opened garbled =>
        rw [hkept] at kept
        cases kept
        exact .inr ⟨_, opened, garbled⟩
  · rintro (⟨e, hne, hopen⟩ | ⟨bytes, hopen, hgarbled⟩)
    · obtain ⟨fault, hfault⟩ := ofOpening_of_ne_refused hne
      unfold openPhrase
      simp only [hkept, hopen, hfault]
      exact ⟨fault, rfl⟩
    · unfold openPhrase
      simp only [hkept, hopen, hgarbled]
      exact ⟨_, rfl⟩

end

end Record

/-- Each answer is given just where its condition holds. Of a sealed secret: that its form is
damaged; otherwise that its cost cannot be met, and at such a cost nothing is hashed; otherwise
that it is too short; otherwise that the key does not fit; and otherwise the plaintext. Of a
record: that it has no phrase, that the password is wrong where the key does not fit, and in all
other cases of failure that it is corrupt. -/
theorem opening_tells_what_is_wrong :
    -- A sealed secret.
    (∀ (sealed : Sealed) (password : String),
        ((∃ reason, sealed.openWith password = .error (.malformed reason)) ↔ sealed.Damaged)
        ∧ (¬ sealed.cost.Sealable → (sealed.openBy Sealed.recordedHash password).run []
            = (sealed.openWith password, []))
        ∧ (¬ sealed.Damaged → ∃ salt data, sealed.Reads salt data
          ∧ ((∃ fault, sealed.openWith password = .error (.kdf (.cost fault)))
            ↔ ¬ sealed.cost.Sealable)
          ∧ (sealed.cost.Sealable → ∃ key,
            Kdf.deriveKey password salt sealed.cost = .ok key
            ∧ (sealed.openBy Sealed.recordedHash password).run []
              = (sealed.openWith password, [⟨sealed.cost, password, salt⟩])
            ∧ (sealed.openWith password = .error .tooShort ↔ data.length < 12)
            ∧ (sealed.openWith password = .error .refused
              ↔ 12 ≤ data.length ∧ (data.length < 28 ∨ ¬ Tagged key data))
            ∧ (28 ≤ data.length → Tagged key data → ∃ plaintext,
              sealed.openWith password = .ok plaintext
                ∧ encryptWith key (Bytes.toBlock 12 data) plaintext = data))))
      -- The private key of a record.
      ∧ (∀ (record : Record) (password : String),
        (record.openKeypair password = .error .invalidPassword
          ↔ record.privateKey.openWith password = .error .refused)
        ∧ ((∃ fault, record.openKeypair password = .error (.corruptRecord fault))
          ↔ (∃ e, e ≠ .refused ∧ record.privateKey.openWith password = .error e)
            ∨ ∃ secret, record.privateKey.openWith password = .ok secret
              ∧ record.Mismatched secret)
        ∧ ∀ keypair, record.openKeypair password = .ok keypair
          ↔ record.privateKey.openWith password = .ok keypair.seed.bytes
            ∧ keypair.publicKey.toHex = record.publicKey)
      -- Its phrase.
      ∧ ∀ (record : Record) (password : String),
        (record.openPhrase password = .error .noPhrase ↔ record.phrase = none)
        ∧ ∀ sealed, record.phrase = some sealed →
          (record.openPhrase password = .error .invalidPassword
            ↔ sealed.openWith password = .error .refused)
          ∧ ((∃ fault, record.openPhrase password = .error (.corruptRecord fault))
            ↔ (∃ e, e ≠ .refused ∧ sealed.openWith password = .error e)
              ∨ ∃ bytes, sealed.openWith password = .ok bytes ∧ Bytes.toText? bytes = none)
          ∧ ∀ phrase, record.openPhrase password = .ok phrase
            ↔ ∃ bytes, sealed.openWith password = .ok bytes
              ∧ Bytes.toText? bytes = some phrase := by
  refine ⟨fun sealed password => ⟨Sealed.openWith_eq_malformed_iff,
    Sealed.run_recorded_of_not_sealable password, fun hform => ?_⟩, ?_, ?_⟩
  · obtain ⟨salt, data, hreads⟩ := Sealed.exists_reads hform
    refine ⟨salt, data, hreads, Sealed.openWith_eq_cost_iff hreads, fun hcost => ?_⟩
    exact ⟨_, Kdf.deriveKey_of_sealable hreads.length_salt password hcost,
      Sealed.run_recorded_of_sealable password hreads hcost,
      Sealed.openWith_eq_tooShort_iff hreads hcost, Sealed.openWith_eq_refused_iff hreads hcost,
      Sealed.openWith_of_tagged hreads hcost⟩
  · intro record password
    exact ⟨Record.openKeypair_eq_invalidPassword_iff, Record.openKeypair_eq_corruptRecord_iff,
      fun _ => Record.openKeypair_eq_ok_iff⟩
  · intro record password
    exact ⟨Record.openPhrase_eq_noPhrase_iff, fun sealed hkept =>
      ⟨Record.openPhrase_eq_invalidPassword_iff hkept,
        Record.openPhrase_eq_corruptRecord_iff hkept,
        fun _ => Record.openPhrase_eq_ok_iff hkept⟩⟩

/-- A sealed secret that asks for four tebibytes of memory, and is too short as well. -/
def greedySecret : Sealed :=
  ⟨⟨4294967295, 1, 1⟩, Text.Hex.encode (List.replicate 16 0), Text.Hex.encode [0]⟩

/-- It is refused for its cost and nothing is hashed. At a cost that can be met, it is too short.
A record that holds it is corrupt. -/
theorem opening_tells_what_is_wrong_greedy :
    (∃ fault, greedySecret.openWith "Correct-Horse-42" = .error (.kdf (.cost fault)))
      ∧ (greedySecret.openBy Sealed.recordedHash "Correct-Horse-42").run []
        = (greedySecret.openWith "Correct-Horse-42", [])
      ∧ { greedySecret with cost := .light }.openWith "Correct-Horse-42" = .error .tooShort
      ∧ (∃ fault, (Record.mk recordVersion "" "" greedySecret (some greedySecret)
          .epoch).openKeypair "Correct-Horse-42" = .error (.corruptRecord fault))
      ∧ ∃ fault, (Record.mk recordVersion "" "" greedySecret (some greedySecret)
          .epoch).openPhrase "Correct-Horse-42" = .error (.corruptRecord fault) := by
  obtain ⟨hsecrets, hkeypairs, hphrases⟩ := opening_tells_what_is_wrong
  have hreads (cost : Kdf.Cost) :
      ({ greedySecret with cost } : Sealed).Reads (List.replicate 16 0) [0] :=
    ⟨Text.Hex.decode_encode _, rfl, Text.Hex.decode_encode _⟩
  have hgreedy : ¬ greedySecret.cost.Sealable := by decide
  -- As it is.
  obtain ⟨-, hunhashed, hform⟩ := hsecrets greedySecret "Correct-Horse-42"
  obtain ⟨-, -, -, hcost, -⟩ := hform (hreads greedySecret.cost).not_damaged
  obtain ⟨fault, hfault⟩ := hcost.mpr hgreedy
  -- At another cost.
  obtain ⟨-, -, hlightForm⟩ := hsecrets { greedySecret with cost := .light } "Correct-Horse-42"
  obtain ⟨salt, data, hlightReads, -, hanswers⟩ := hlightForm (hreads .light).not_damaged
  obtain ⟨key, -, -, hshort, -⟩ := hanswers (by decide)
  obtain ⟨-, rfl⟩ := (hreads .light).unique hlightReads
  -- In a record.
  have hother : Sealed.Error.kdf (.cost fault) ≠ .refused := fun h => by cases h
  let record : Record := ⟨recordVersion, "", "", greedySecret, some greedySecret, .epoch⟩
  obtain ⟨-, hcorrupt, -⟩ := hkeypairs record "Correct-Horse-42"
  obtain ⟨-, hphrase⟩ := hphrases record "Correct-Horse-42"
  obtain ⟨-, hcorruptPhrase, -⟩ := hphrase greedySecret rfl
  exact ⟨⟨fault, hfault⟩, hunhashed hgreedy, hshort.mpr (by decide),
    hcorrupt.mpr (.inl ⟨_, hother, hfault⟩), hcorruptPhrase.mpr (.inl ⟨_, hother, hfault⟩)⟩

end Custody
