import Custody.Proofs.Sealed
import Custody.Proofs.Stored

/-!
# `Custody.Proofs.Sealed.RoundTrip`: sealing, there and back

Encryption and decryption undo each other in both directions. What was encrypted is decrypted,
and what is decrypted was encrypted: a ciphertext that is accepted is the nonce in front, the
plaintext under that nonce and the one tag that belongs to the two. All but the tag thus decides
about the tag, and with any other tag in its place the ciphertext is refused
(`decryptWith_of_other_tag`).

Sealing adds a password and a cost. A secret is sealed at just the costs that can be met, opens
with its password, and still does so when it has been stored as JSON (`sealing_round_trip`).
-/

set_option autoImplicit false

namespace Custody

open Crypto (Gcm.tagLength)

/-- Two ciphertexts that are accepted under one key are the same, if all but their tags are. -/
theorem eq_of_decryptWith {key : Block 32} {data other plaintext found : Bytes}
    (h : decryptWith key data = .ok plaintext) (hother : decryptWith key other = .ok found)
    (hsame : other.take (other.length - Gcm.tagLength) = data.take (data.length - Gcm.tagLength)) :
    other = data := by
  -- The front of what was encrypted: the nonce, and then the plaintext with the keystream added.
  have hfront (nonce : Block 12) (plaintext : Bytes) :
      (encryptWith key nonce plaintext).take
          ((encryptWith key nonce plaintext).length - Gcm.tagLength)
        = nonce.bytes
          ++ Crypto.Gcm.addKeystream (Crypto.Aes256.roundKeys key) nonce plaintext := by
    have hlength : (encryptWith key nonce plaintext).length - Gcm.tagLength
        = (nonce.bytes
          ++ Crypto.Gcm.addKeystream (Crypto.Aes256.roundKeys key) nonce plaintext).length := by
      rw [length_encryptWith, Nat.add_sub_cancel, List.length_append, Block.length_bytes,
        Crypto.Gcm.length_addKeystream]
      rfl
    rw [hlength, encryptWith, Crypto.Gcm.encrypt, ← List.append_assoc]
    exact List.take_left
  rw [← encryptWith_of_decryptWith h, ← encryptWith_of_decryptWith hother, hfront, hfront] at hsame
  have hlength : (Bytes.toBlock 12 other).bytes.length = (Bytes.toBlock 12 data).bytes.length := by
    rw [Block.length_bytes, Block.length_bytes]
  obtain ⟨hnonce, hcipher⟩ := List.append_inj hsame hlength
  rw [Block.bytes_inj] at hnonce
  rw [← encryptWith_of_decryptWith h, ← encryptWith_of_decryptWith hother, encryptWith,
    encryptWith, Crypto.Gcm.encrypt, Crypto.Gcm.encrypt, hcipher, hnonce]

/-- An accepted ciphertext is refused with any other tag. -/
theorem decryptWith_of_other_tag {key : Block 32} {data other plaintext : Bytes}
    (h : decryptWith key data = .ok plaintext) (hlength : other.length = data.length)
    (hsame : other.take (data.length - Gcm.tagLength) = data.take (data.length - Gcm.tagLength))
    (hne : other ≠ data) : decryptWith key other = .error .refused := by
  cases hother : decryptWith key other with
  | ok found =>
      exact absurd (eq_of_decryptWith h hother (by rw [hlength]; exact hsame)) hne
  | error e =>
      cases e with
      | refused => rfl
      | tooShort =>
          -- What is accepted is long enough, and this is as long.
          have hlong := length_encryptWith key (Bytes.toBlock 12 data) plaintext
          rw [encryptWith_of_decryptWith h] at hlong
          unfold decryptWith at hother
          split at hother
          · omega
          · split at hother <;> cases hother

/-- A sealed secret reads back from its JSON text. -/
theorem Sealed.ofJson?_parse (sealed : Sealed) :
    (Json.parse sealed.toJson.compact).bind Sealed.ofJson? = some sealed := by
  rw [Json.parse_compact, Option.bind_some, Sealed.ofJson?_toJson]

/-- What was encrypted is decrypted, and is longer by a nonce and a tag. What is decrypted was
encrypted with the nonce in front, and with another tag it is not decrypted. A secret is sealed
under any password at a cost that can be met, and opens again, also from its JSON text; at other
costs it is not sealed. -/
theorem sealing_round_trip :
    (∀ (key : Block 32) (nonce : Block 12) (plaintext : Bytes),
        decryptWith key (encryptWith key nonce plaintext) = .ok plaintext
          ∧ (encryptWith key nonce plaintext).length = 12 + plaintext.length + 16)
      ∧ (∀ (key : Block 32) (data plaintext : Bytes), decryptWith key data = .ok plaintext →
          (∃ nonce : Block 12, nonce.bytes = data.take 12
            ∧ encryptWith key nonce plaintext = data)
          ∧ ∀ other : Bytes, other.length = data.length →
            other.take (data.length - 16) = data.take (data.length - 16) → other ≠ data →
              decryptWith key other = .error .refused)
      ∧ ∀ (password : String) (plaintext : Bytes) (tape : Tape) (cost : Kdf.Cost),
        (cost.Sealable → ∃ sealed after,
          Sealed.make password plaintext cost tape = (.ok sealed, after)
            ∧ sealed.openWith password = .ok plaintext
            ∧ ∃ read, (Json.parse sealed.toJson.compact).bind Sealed.ofJson? = some read
              ∧ read.openWith password = .ok plaintext)
        ∧ (¬ cost.Sealable → ∃ fault after,
          Sealed.make password plaintext cost tape = (.error (.kdf (.cost fault)), after)) := by
  refine ⟨fun key nonce plaintext => ?_, fun key data plaintext h => ?_,
    fun password plaintext tape cost => ⟨fun hcost => ?_, fun hcost => ?_⟩⟩
  · exact ⟨decryptWith_encryptWith key nonce plaintext, length_encryptWith key nonce plaintext⟩
  · have hdata := encryptWith_of_decryptWith h
    have hlong : 12 ≤ data.length := by
      rw [← hdata, length_encryptWith, nonceLength]
      omega
    refine ⟨⟨Bytes.toBlock 12 data, Bytes.bytes_toBlock_of_le hlong, hdata⟩, ?_⟩
    intro other hlength hsame hne
    exact decryptWith_of_other_tag h hlength hsame hne
  · obtain ⟨sealed, after, hmake⟩ := Sealed.make_eq_ok password plaintext hcost tape
    have hopen := Sealed.openWith_make hmake
    exact ⟨sealed, after, hmake, hopen, sealed, sealed.ofJson?_parse, hopen⟩
  · obtain ⟨fault, hfault⟩ := Sealed.make_of_not_sealable password plaintext hcost tape
    exact ⟨fault, _, hfault⟩

/-- Three bytes, their encryption with another last byte, and two costs. -/
theorem sealing_round_trip_altered :
    ∃ (key : Block 32) (data other : Bytes) (sealed : Sealed) (tape after : Tape),
      decryptWith key data = .ok [1, 2, 3] ∧ data.length = 31
        ∧ other.take 30 = data.take 30 ∧ decryptWith key other = .error .refused
        ∧ Sealed.make "correct horse" [1, 2, 3] .light tape = (.ok sealed, after)
        ∧ sealed.openWith "correct horse" = .ok [1, 2, 3]
        ∧ ∃ fault after,
          Sealed.make "correct horse" [1, 2, 3] ⟨8, 1, 0⟩ tape
            = (.error (.kdf (.cost fault)), after) := by
  obtain ⟨hencrypt, hdecrypt, hseal⟩ := sealing_round_trip
  let key := Bytes.toBlock 32 [7]
  obtain ⟨hdata, hlength⟩ := hencrypt key (Bytes.toBlock 12 [9]) [1, 2, 3]
  generalize encryptWith key (Bytes.toBlock 12 [9]) [1, 2, 3] = data at hdata hlength
  have hlong : data.length = 31 := hlength
  obtain ⟨-, hrefuses⟩ := hdecrypt key data [1, 2, 3] hdata
  -- The last byte goes up by one.
  let other := data.set 30 (data[30] + 1)
  have hne : other ≠ data := by
    intro h
    have hlast : other[30]? = data[30]? := by rw [h]
    simp [other, hlong] at hlast
  have hrefused : decryptWith key other = .error .refused := by
    refine hrefuses other List.length_set ?_ hne
    rw [hlong]
    exact List.take_set_of_le (by decide)
  obtain ⟨hlight, -⟩ := hseal "correct horse" [1, 2, 3] (.ofBytes [5]) .light
  obtain ⟨sealed, after, hmake, hopen, -⟩ := hlight (by decide)
  obtain ⟨-, hnone⟩ := hseal "correct horse" [1, 2, 3] (.ofBytes [5]) ⟨8, 1, 0⟩
  exact ⟨key, data, other, sealed, .ofBytes [5], after, hdata, hlong,
    List.take_set_of_le (by decide), hrefused, hmake, hopen, hnone (by decide)⟩

end Custody
