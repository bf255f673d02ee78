import Custody.Proofs.Crypto.Ed25519.Signature
import Custody.Proofs.Json.Record
import Custody.Proofs.Json.Parse
import Custody.Transfer

/-!
# `Custody.Proofs.Transfer`: what goes to the ledger is what was signed

The fields of a transfer are written three times: as the payload that is signed, as the
submission that goes to the ledger, and as the JSON text of the submission. A ledger has the text
only. `submission_says_what_was_signed` says that it is enough: the text reads back as the
submission, the payload and the digest computed from it are those of the transaction, and the
check of the signature comes out as the wallet's own check did.

A transfer that its sender has signed passes the check (`Transaction.verifies_sign`). A sender
need not be a point of the curve. Where it is none, neither check is passed.
-/

set_option autoImplicit false

namespace Custody

open Transfer

/-! ### The text reads back -/

/-- An action reads back. -/
theorem Transfer.Action.ofJson?_toJson (action : Action) :
    Action.ofJson? action.toJson = some action := by
  cases action with
  | nativeTransfer amount =>
      -- The kind is the only key, and it is the one that is looked for.
      have hkind : (Action.nativeTransfer amount).toJson
          = .object [(some "NativeTransfer", .ofMembers [("amount", .nat amount.toNat)])] := rfl
      rw [hkind]
      simp only [Action.ofJson?]
      rw [Json.Value.fields?_ofMembers]
      simp [Json.Value.only?, Json.Value.required?, Json.Value.uint64?_nat]

namespace Submission

/-- A list of bytes reads back. -/
theorem list?_bytesToJson (bytes : Bytes) :
    Json.Value.list? Json.Value.uint8? (bytesToJson bytes) = some bytes :=
  Json.Value.list?_map Json.Value.uint8?_nat bytes

/-- A submission reads back from its members. -/
theorem ofJson?_toJson (s : Submission) : ofJson? s.toJson = some s := by
  unfold ofJson? toJson
  rw [Json.Value.fields?_ofMembers]
  simp [Json.Value.only?, Json.Value.required?, list?_bytesToJson, Json.Value.uint64?_nat,
    Action.ofJson?_toJson]

/-- A submission reads back from its text. -/
theorem ofText?_text (s : Submission) : ofText? s.text = some s := by
  rw [ofText?, text, Json.parse_compact, Option.bind_some, ofJson?_toJson]

end Submission

/-! ### Drafts and transactions -/

namespace Transfer.Draft

/-- The bytes of a key are taken. -/
@[simp] theorem key_bytes (field : Field) (block : Block 32) :
    key field block.bytes = .ok block := by
  rw [key, Bytes.toBlock?_bytes]

/-- What was taken as a key are its bytes. -/
theorem bytes_of_key {field : Field} {bytes : Bytes} {block : Block 32}
    (h : key field bytes = .ok block) : block.bytes = bytes := by
  unfold key at h
  cases hfound : bytes.toBlock? 32 with
  | none =>
      rw [hfound] at h
      cases h
  | some found =>
      rw [hfound] at h
      cases h
      exact Bytes.bytes_of_toBlock? hfound

/-- Building a draft takes its fields over. -/
theorem draft_of_build {draft : Draft} {tx : Transaction} (h : draft.build = .ok tx) :
    tx.draft = draft := by
  unfold build at h
  cases hsender : key .sender draft.sender with
  | error e =>
      rw [hsender] at h
      cases h
  | ok sender =>
      rw [hsender] at h
      cases hreceiver : key .receiver draft.receiver with
      | error e =>
          rw [hreceiver] at h
          cases h
      | ok receiver =>
          rw [hreceiver] at h
          cases h
          show (⟨sender.bytes, receiver.bytes, draft.nonce, draft.action⟩ : Draft) = draft
          rw [bytes_of_key hsender, bytes_of_key hreceiver]

end Transfer.Draft

namespace Transaction

variable (tx : Transaction)

/-- A transaction without its signature is built from its fields. -/
theorem build_draft : tx.draft.build = .ok { tx with signature := none } := by
  unfold draft Draft.build
  simp only [Draft.key_bytes]
  rfl

/-- The keys of a transaction have their lengths, so its fields always have a payload. -/
theorem payload_draft : tx.draft.payload = .ok tx.payload := by
  unfold draft Draft.payload
  simp only [Draft.key_bytes]
  rfl

/-- The fields of a transaction have its digest. -/
theorem digest_draft : tx.draft.digest = .ok tx.digest := by
  rw [Draft.digest, payload_draft]
  rfl

/-- The digest does not depend on the signature. -/
theorem digest_sign (keypair : Keypair) : (tx.sign keypair).digest = tx.digest := by
  unfold digest payload sign
  rfl

variable {tx}

/-- A transaction that its sender signs verifies. -/
theorem verifies_sign {keypair : Keypair} (h : tx.sender = keypair.publicKey) :
    (tx.sign keypair).verifies = true := by
  unfold verifies
  rw [digest_sign]
  show tx.sender.verify tx.digest.bytes (keypair.sign tx.digest.bytes) = true
  rw [h]
  exact Crypto.Ed25519.verify_sign keypair.seed tx.digest.bytes

end Transaction

/-! ### Submissions and transactions -/

namespace PublicKey

/-- The bytes of a key are a key again where they are a point of the curve. -/
theorem ofBytes_bytes (key : PublicKey) :
    ofBytes key.bytes.bytes
      = if Crypto.Ed25519.isPublicKey key.bytes then .ok key else .error .publicKey := by
  unfold ofBytes
  rw [Bytes.toBlock?_bytes]

/-- A key that is no point of the curve verifies nothing. -/
theorem verify_of_not_isPublicKey {key : PublicKey}
    (h : ¬ Crypto.Ed25519.isPublicKey key.bytes = true) (message : Bytes)
    (signature : Signature) : key.verify message signature = false := by
  unfold Crypto.Ed25519.isPublicKey at h
  unfold verify Crypto.Ed25519.verify
  rw [Option.not_isSome_iff_eq_none.mp h]

end PublicKey

namespace Transaction

variable {tx : Transaction} {s : Submission}

/-- Only what is not signed cannot be submitted. -/
theorem toSubmission_eq_none_iff : tx.toSubmission = none ↔ tx.signature = none := by
  unfold toSubmission
  exact Option.map_eq_none_iff

/-- The signed fields of a submission are those of its transaction. -/
theorem draft_of_toSubmission (h : tx.toSubmission = some s) : s.draft = tx.draft := by
  unfold toSubmission at h
  obtain ⟨signature, -, rfl⟩ := Option.map_eq_some_iff.mp h
  rfl

/-- The signature verifies by the submission alone if it verifies by the transaction. -/
theorem verifies_of_toSubmission (h : tx.toSubmission = some s) :
    s.verifies = tx.verifies := by
  have hdigest : s.draft.digest = .ok tx.digest := by
    rw [draft_of_toSubmission h, digest_draft]
  unfold toSubmission at h
  obtain ⟨signature, hsignature, rfl⟩ := Option.map_eq_some_iff.mp h
  unfold Submission.verifies verifies
  rw [hdigest, hsignature]
  simp only [Signature.ofBytes, Bytes.toBlock?_bytes, PublicKey.ofBytes_bytes]
  by_cases hkey : Crypto.Ed25519.isPublicKey tx.sender.bytes = true
  · rw [if_pos hkey]
  · rw [if_neg hkey, PublicKey.verify_of_not_isPublicKey hkey]

end Transaction

/-- Of every signed transaction: the text of its submission reads back, and what is computed and
checked from it is what was signed. Whatever a key pair is asked to transfer, to any 32 bytes, is
built, signed and submitted, and passes the check. A transaction that was not signed has no
submission. -/
theorem submission_says_what_was_signed :
    (∀ (tx : Transaction) (s : Submission), tx.toSubmission = some s →
        Submission.ofText? s.text = some s
          ∧ s.draft.payload = .ok tx.payload
          ∧ s.draft.digest = .ok tx.digest
          ∧ s.verifies = tx.verifies)
      ∧ (∀ (keypair : Keypair) (receiver : Block 32) (nonce amount : UInt64), ∃ tx s,
          Draft.build ⟨keypair.publicKey.bytes.bytes, receiver.bytes, nonce,
              .nativeTransfer amount⟩ = .ok tx
            ∧ (tx.sign keypair).toSubmission = some s
            ∧ s.verifies = true ∧ (tx.sign keypair).verifies = true)
      ∧ ∀ tx : Transaction, tx.toSubmission = none ↔ tx.signature = none := by
  refine ⟨fun tx s h => ?_, fun keypair receiver nonce amount => ?_,
    fun tx => Transaction.toSubmission_eq_none_iff⟩
  · have hdraft := Transaction.draft_of_toSubmission h
    rw [hdraft]
    exact ⟨s.ofText?_text, tx.payload_draft, tx.digest_draft,
      Transaction.verifies_of_toSubmission h⟩
  · let tx : Transaction :=
      ⟨keypair.publicKey, ⟨receiver⟩, nonce, .nativeTransfer amount, none⟩
    have hverifies : (tx.sign keypair).verifies = true := Transaction.verifies_sign rfl
    obtain ⟨s, hs⟩ : ∃ s, (tx.sign keypair).toSubmission = some s := ⟨_, rfl⟩
    refine ⟨tx, s, tx.build_draft, hs, ?_, hverifies⟩
    rw [Transaction.verifies_of_toSubmission hs]
    exact hverifies

/-- The greatest nonce and the greatest amount come through. -/
theorem submission_says_what_was_signed_greatest :
    ∃ (tx : Transaction) (s : Submission),
      tx.draft.nonce = 18446744073709551615
        ∧ tx.draft.action = .nativeTransfer 18446744073709551615
        ∧ tx.toSubmission = some s ∧ Submission.ofText? s.text = some s
        ∧ s.draft.digest = .ok tx.digest ∧ s.verifies = true := by
  obtain ⟨hsigned, hbuilt, -⟩ := submission_says_what_was_signed
  let keypair : Keypair := ⟨Bytes.toBlock 32 [7]⟩
  obtain ⟨tx, s, hbuild, hs, hverifies, -⟩ :=
    hbuilt keypair (Bytes.toBlock 32 [2]) 18446744073709551615 18446744073709551615
  have hdraft := Draft.draft_of_build hbuild
  obtain ⟨htext, -, hdigest, -⟩ := hsigned (tx.sign keypair) s hs
  have hsame : (tx.sign keypair).draft = tx.draft := rfl
  refine ⟨tx.sign keypair, s, ?_, ?_, hs, htext, hdigest, hverifies⟩
  · rw [hsame, hdraft]
  · rw [hsame, hdraft]

end Custody
