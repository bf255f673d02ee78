import Custody.Proofs.Bytes
import Custody.Proofs.Transfer

/-!
# `Custody.Proofs.Transfer.Payload`: a payload says all that is signed

A payload has no separators and tells no lengths, so what can be read back from it rests on its
offsets alone. `Draft.LaidOut` is the layout, field by field, and `Draft.read?` reads it. Reading
and writing are inverse to each other (`Draft.LaidOut.read?`, `Draft.layout_of_read?`): every
draft whose keys have their lengths has one payload, and every 94 bytes with the name of the kind
in its place are the payload of one draft.

The lengths of the keys are checked where a payload is made and where a transaction is built.
`Draft.fault?` is the complaint of both (`Draft.payload_eq`, `Draft.build_eq`).
-/

set_option autoImplicit false

namespace Custody

/-! ### Numbers of eight bytes -/

namespace Bytes

/-- Digits come back from the number that they spell. -/
theorem ofNatLE_toNatLE (bytes : Bytes) : ofNatLE bytes.length (toNatLE bytes) = bytes := by
  induction bytes with
  | nil => rfl
  | cons b rest ih =>
      have hlow : UInt8.ofNat (b.toNat + 256 * toNatLE rest) = b := by
        apply UInt8.toNat_inj.mp
        have hlt := b.toNat_lt
        rw [UInt8.toNat_ofNat']
        omega
      have hhigh : (b.toNat + 256 * toNatLE rest) / 256 = toNatLE rest := by
        have hlt := b.toNat_lt
        omega
      rw [toNatLE, List.length_cons, ofNatLE, hlow, hhigh, ih]

/-- Digits do not spell more than there is room for. -/
theorem toNatLE_shiftRight (bytes : Bytes) : toNatLE bytes >>> (8 * bytes.length) = 0 := by
  induction bytes with
  | nil => rfl
  | cons b rest ih =>
      have hlt := b.toNat_lt
      have hhigh : (b.toNat + 256 * toNatLE rest) >>> 8 = toNatLE rest := by
        rw [Nat.shiftRight_eq_div_pow]
        omega
      rw [toNatLE, List.length_cons, Nat.mul_succ, Nat.add_comm (8 * rest.length) 8,
        Nat.shiftRight_add, hhigh, ih]

/-- The lowest byte of a shifted word. -/
theorem toUInt8_shiftRight (word : UInt64) {k : UInt64} (h : k.toNat < 64) :
    (word >>> k).toUInt8 = UInt8.ofNat (word.toNat >>> k.toNat) := by
  apply UInt8.toNat_inj.mp
  rw [UInt64.toNat_toUInt8, UInt64.toNat_shiftRight, Nat.mod_eq_of_lt h, UInt8.toNat_ofNat']

/-- The eight bytes of a word are the digits of its number. -/
theorem ofUInt64LE_eq (word : UInt64) : ofUInt64LE word = ofNatLE 8 word.toNat := by
  have hlow : word.toUInt8 = UInt8.ofNat word.toNat := by
    apply UInt8.toNat_inj.mp
    rw [UInt64.toNat_toUInt8, UInt8.toNat_ofNat']
  rw [ofUInt64LE, hlow, toUInt8_shiftRight word (k := 8) (by decide),
    toUInt8_shiftRight word (k := 16) (by decide), toUInt8_shiftRight word (k := 24) (by decide),
    toUInt8_shiftRight word (k := 32) (by decide), toUInt8_shiftRight word (k := 40) (by decide),
    toUInt8_shiftRight word (k := 48) (by decide), toUInt8_shiftRight word (k := 56) (by decide)]
  -- Dividing by 256 again and again is shifting by eight bits more each time.
  simp only [ofNatLE, Nat.shiftRight_eq_div_pow, Nat.div_div_eq_div_mul]
  rfl

/-- A word comes back from its eight bytes. -/
theorem ofNat_toNatLE_ofUInt64LE (word : UInt64) :
    UInt64.ofNat (toNatLE (ofUInt64LE word)) = word := by
  have hfits : word.toNat >>> (8 * 8) = 0 := by
    rw [Nat.shiftRight_eq_div_pow]
    exact Nat.div_eq_of_lt word.toNat_lt
  rw [ofUInt64LE_eq, toNatLE_ofNatLE hfits, UInt64.ofNat_toNat]

/-- Eight bytes come back from their word. -/
theorem ofUInt64LE_ofNat_toNatLE {bytes : Bytes} (h : bytes.length = 8) :
    ofUInt64LE (UInt64.ofNat (toNatLE bytes)) = bytes := by
  have hfits := toNatLE_shiftRight bytes
  rw [h, Nat.shiftRight_eq_div_pow] at hfits
  have hlt : toNatLE bytes < UInt64.size := Nat.lt_of_div_eq_zero (by decide) hfits
  rw [ofUInt64LE_eq, UInt64.toNat_ofNat_of_lt' hlt, ← h, ofNatLE_toNatLE]

end Bytes

namespace Transfer.Draft

/-! ### Lengths -/

/-- The first key that does not have its length, if there is one. -/
def fault? (draft : Draft) : Option LengthError :=
  if draft.sender.length ≠ 32 then some ⟨.sender, 32, draft.sender.length⟩
  else if draft.receiver.length ≠ 32 then some ⟨.receiver, 32, draft.receiver.length⟩
  else none

variable {draft : Draft} {payload : Bytes}

/-- There is no fault if both keys have 32 bytes. -/
theorem fault?_eq_none_iff :
    draft.fault? = none ↔ draft.sender.length = 32 ∧ draft.receiver.length = 32 := by
  unfold fault?
  by_cases hsender : draft.sender.length = 32
  · by_cases hreceiver : draft.receiver.length = 32 <;> simp [hsender, hreceiver]
  · simp [hsender]

/-- A key field of the right length is taken as it is. -/
theorem key_of_length (field : Field) {bytes : Bytes} (h : bytes.length = 32) :
    key field bytes = .ok (Bytes.toBlock 32 bytes) := by
  have hkey := key_bytes field (Bytes.toBlock 32 bytes)
  rwa [Bytes.bytes_toBlock h] at hkey

/-- A key of any other length is refused by it. -/
theorem key_of_length_ne (field : Field) {bytes : Bytes} (h : bytes.length ≠ 32) :
    key field bytes = .error ⟨field, 32, bytes.length⟩ := by
  rw [key, Bytes.toBlock?_eq_none_iff.mpr h]

/-- Both checks, in front of anything that is made of two keys of the right length. -/
theorem checked_eq {α : Type} (draft : Draft) (make : Block 32 → Block 32 → α) :
    (key .sender draft.sender >>= fun sender =>
        key .receiver draft.receiver >>= fun receiver => pure (make sender receiver))
      = match draft.fault? with
        | some e => .error e
        | none => .ok (make (Bytes.toBlock 32 draft.sender) (Bytes.toBlock 32 draft.receiver)) := by
  unfold fault?
  by_cases hsender : draft.sender.length = 32
  · rw [key_of_length .sender hsender, if_neg (not_not_intro hsender)]
    by_cases hreceiver : draft.receiver.length = 32
    · rw [key_of_length .receiver hreceiver, if_neg (not_not_intro hreceiver)]
      rfl
    · rw [key_of_length_ne .receiver hreceiver, if_pos hreceiver]
      rfl
  · rw [key_of_length_ne .sender hsender, if_pos hsender]
    rfl

/-- A payload is complained about or made. -/
theorem payload_eq (draft : Draft) :
    draft.payload = match draft.fault? with
      | some e => .error e
      | none => .ok (layout (Bytes.toBlock 32 draft.sender).bytes
          (Bytes.toBlock 32 draft.receiver).bytes draft.nonce draft.action) :=
  checked_eq draft fun sender receiver =>
    layout sender.bytes receiver.bytes draft.nonce draft.action

/-- A transaction is complained about or built, and by the same checks. -/
theorem build_eq (draft : Draft) :
    draft.build = match draft.fault? with
      | some e => .error e
      | none => .ok ⟨⟨Bytes.toBlock 32 draft.sender⟩, ⟨Bytes.toBlock 32 draft.receiver⟩,
          draft.nonce, draft.action, none⟩ :=
  checked_eq draft fun sender receiver =>
    Transaction.mk ⟨sender⟩ ⟨receiver⟩ draft.nonce draft.action none

/-- A payload is refused for the first fault, and only for that. -/
theorem payload_eq_error_iff {e : LengthError} :
    draft.payload = .error e ↔ draft.fault? = some e := by
  rw [payload_eq]
  cases draft.fault? <;> simp

/-- A transaction is refused for the first fault, and only for that. -/
theorem build_eq_error_iff {e : LengthError} :
    draft.build = .error e ↔ draft.fault? = some e := by
  rw [build_eq]
  cases draft.fault? <;> simp

/-- Without a fault, the payload is the fields in their layout. -/
theorem payload_eq_ok_iff :
    draft.payload = .ok payload ↔ draft.fault? = none
      ∧ payload = layout draft.sender draft.receiver draft.nonce draft.action := by
  rw [payload_eq]
  cases hfault : draft.fault? with
  | some e => simp
  | none =>
      obtain ⟨hsender, hreceiver⟩ := fault?_eq_none_iff.mp hfault
      rw [Bytes.bytes_toBlock hsender, Bytes.bytes_toBlock hreceiver]
      simp [eq_comm]

/-! ### Fields -/

/-- The name of the kind, in ASCII. -/
def kind : Bytes :=
  [0x4e, 0x61, 0x74, 0x69, 0x76, 0x65, 0x54, 0x72, 0x61, 0x6e, 0x73, 0x66, 0x65, 0x72]

/-- Where each field of a draft stands in the payload. Numbers are in digits to base 256, lowest
first. -/
structure LaidOut (draft : Draft) (payload : Bytes) : Prop where
  length : payload.length = 94
  sender : payload.extract 0 32 = draft.sender
  receiver : payload.extract 32 64 = draft.receiver
  nonce : payload.extract 64 72 = Bytes.ofNatLE 8 draft.nonce.toNat
  kind : payload.extract 72 86 = kind
  amount : payload.extract 86 94 = Bytes.ofNatLE 8 draft.action.amount.toNat

/-- The draft that a payload was made of. -/
def read? (payload : Bytes) : Option Draft :=
  if payload.length = 94 ∧ payload.extract 72 86 = kind then
    some ⟨payload.extract 0 32, payload.extract 32 64,
      UInt64.ofNat (Bytes.toNatLE (payload.extract 64 72)),
      .nativeTransfer (UInt64.ofNat (Bytes.toNatLE (payload.extract 86 94)))⟩
  else none

/-- The tag of a transfer is the kind that the layout holds. -/
theorem ofText_tag (action : Action) : Bytes.ofText action.tag = kind := by
  cases action with
  | nativeTransfer amount =>
      show Bytes.ofText "NativeTransfer" = kind
      decide +kernel

/-- The layout of the fields, one after the other. -/
theorem layout_eq (sender receiver : Bytes) (nonce : UInt64) (action : Action) :
    layout sender receiver nonce action
      = sender ++ receiver ++ Bytes.ofNatLE 8 nonce.toNat ++ kind
        ++ Bytes.ofNatLE 8 action.amount.toNat := by
  rw [layout, ofText_tag, Bytes.ofUInt64LE_eq, Bytes.ofUInt64LE_eq]

/-- The fields of a layout stand where they should. -/
theorem laidOut_layout (h : draft.fault? = none) :
    LaidOut draft (layout draft.sender draft.receiver draft.nonce draft.action) := by
  obtain ⟨hsender, hreceiver⟩ := fault?_eq_none_iff.mp h
  have hkind : kind.length = 14 := rfl
  rw [layout_eq]
  -- All lengths are known, so each cut falls on the ends of a field.
  constructor <;>
    simp [List.extract, List.drop_append, List.drop_of_length_le, List.take_of_length_le, hsender,
      hreceiver, hkind]

/-- The draft that is read is the one whose layout it is. -/
theorem LaidOut.read? (h : LaidOut draft payload) : read? payload = some draft := by
  obtain ⟨sender, receiver, nonce, action⟩ := draft
  cases action with
  | nativeTransfer amount =>
      have hnonce : payload.extract 64 72 = Bytes.ofUInt64LE nonce :=
        h.nonce.trans (Bytes.ofUInt64LE_eq nonce).symm
      have hamount : payload.extract 86 94 = Bytes.ofUInt64LE amount :=
        h.amount.trans (Bytes.ofUInt64LE_eq amount).symm
      rw [Draft.read?, if_pos ⟨h.length, h.kind⟩, h.sender, h.receiver, hnonce, hamount,
        Bytes.ofNat_toNatLE_ofUInt64LE, Bytes.ofNat_toNatLE_ofUInt64LE]

/-- Two cuts with no gap between them are one. -/
theorem extract_append_extract (bytes : Bytes) {start mid stop : Nat} (h : start ≤ mid)
    (h' : mid ≤ stop) :
    bytes.extract start mid ++ bytes.extract mid stop = bytes.extract start stop := by
  have hmid : start + (mid - start) = mid := by omega
  have hstop : stop - start = (mid - start) + (stop - mid) := by omega
  rw [List.extract, List.extract, List.extract, hstop, List.take_add, List.drop_drop, hmid]

/-- What is read from a payload is laid out as the payload again. -/
theorem layout_of_read? (h : read? payload = some draft) :
    draft.fault? = none
      ∧ layout draft.sender draft.receiver draft.nonce draft.action = payload := by
  unfold read? at h
  split at h
  · rename_i hform
    obtain ⟨hlength, hkind⟩ := hform
    cases h
    have hcut : ∀ start stop, stop ≤ 94 → (payload.extract start stop).length = stop - start := by
      intro start stop hstop
      simp only [List.extract, List.length_take, List.length_drop, hlength]
      omega
    refine ⟨fault?_eq_none_iff.mpr ⟨hcut 0 32 (by decide), hcut 32 64 (by decide)⟩, ?_⟩
    simp only [layout, ofText_tag, Action.amount]
    rw [Bytes.ofUInt64LE_ofNat_toNatLE (hcut 64 72 (by decide)),
      Bytes.ofUInt64LE_ofNat_toNatLE (hcut 86 94 (by decide)), ← hkind]
    -- The five cuts follow one another from the first byte to the last.
    rw [extract_append_extract payload (by decide) (by decide),
      extract_append_extract payload (by decide) (by decide),
      extract_append_extract payload (by decide) (by decide),
      extract_append_extract payload (by decide) (by decide)]
    simp only [List.extract, List.drop_zero, Nat.sub_zero, ← hlength, List.take_length]
  · cases h

end Transfer.Draft

/-! ### Payloads -/

open Transfer

/-- The signing payload of any draft, and the transaction that is built of it. A payload is made
just if both keys have 32 bytes; else the complaint is about the first key that has not, with the
length that it has. A payload has 94 bytes with each field in its place, and the draft is read
back from it; whatever is read back has these bytes as its payload. So two drafts have the same
payload only if they are the same. Building makes the same complaints. The digest of the
transaction is that of the draft, whatever signature is put on it or taken off. -/
theorem payload_tells_its_fields :
    (∀ draft : Draft,
        ((∃ payload, draft.payload = .ok payload)
          ↔ draft.sender.length = 32 ∧ draft.receiver.length = 32)
        ∧ (draft.sender.length ≠ 32 →
          draft.payload = .error ⟨.sender, 32, draft.sender.length⟩)
        ∧ (draft.sender.length = 32 → draft.receiver.length ≠ 32 →
          draft.payload = .error ⟨.receiver, 32, draft.receiver.length⟩)
        ∧ ∀ payload, draft.payload = .ok payload →
          draft.LaidOut payload ∧ Draft.read? payload = some draft)
      ∧ (∀ (payload : Bytes) (draft : Draft), Draft.read? payload = some draft →
        draft.payload = .ok payload)
      ∧ (∀ (first second : Draft) (payload other : Bytes), first.payload = .ok payload →
        second.payload = .ok other → (payload = other ↔ first = second))
      ∧ (∀ (draft : Draft) (e : LengthError), draft.build = .error e ↔ draft.payload = .error e)
      ∧ ∀ (draft : Draft) (tx : Transaction), draft.build = .ok tx →
        tx.draft = draft ∧ draft.digest = .ok tx.digest
          ∧ ∀ signature : Option Signature, { tx with signature }.digest = tx.digest := by
  refine ⟨fun draft => ⟨?_, ?_, ?_, ?_⟩, ?_, ?_, ?_, ?_⟩
  · rw [← Draft.fault?_eq_none_iff]
    constructor
    · rintro ⟨payload, h⟩
      exact (Draft.payload_eq_ok_iff.mp h).1
    · intro h
      exact ⟨_, Draft.payload_eq_ok_iff.mpr ⟨h, rfl⟩⟩
  · intro h
    rw [Draft.payload_eq_error_iff, Draft.fault?, if_pos h]
  · intro h h'
    rw [Draft.payload_eq_error_iff, Draft.fault?, if_neg (not_not_intro h), if_pos h']
  · intro payload h
    obtain ⟨hfault, rfl⟩ := Draft.payload_eq_ok_iff.mp h
    exact ⟨Draft.laidOut_layout hfault, (Draft.laidOut_layout hfault).read?⟩
  · intro payload draft h
    obtain ⟨hfault, hlayout⟩ := Draft.layout_of_read? h
    exact Draft.payload_eq_ok_iff.mpr ⟨hfault, hlayout.symm⟩
  · intro first second payload other h h'
    obtain ⟨hfault, rfl⟩ := Draft.payload_eq_ok_iff.mp h
    obtain ⟨hfault', rfl⟩ := Draft.payload_eq_ok_iff.mp h'
    constructor
    · intro heq
      have hread := (Draft.laidOut_layout hfault).read?
      rw [heq, (Draft.laidOut_layout hfault').read?] at hread
      exact (Option.some.inj hread).symm
    · intro heq
      rw [heq]
  · intro draft e
    rw [Draft.build_eq_error_iff, Draft.payload_eq_error_iff]
  · intro draft tx h
    have hfields := Draft.draft_of_build h
    refine ⟨hfields, ?_, fun signature => rfl⟩
    rw [← hfields, Transaction.digest_draft]

/-- A transfer of the greatest amount, and the same the other way round: both have payloads, and
these differ. With two keys of the wrong length, the sender's is complained about, also by
building. -/
theorem payload_tells_its_fields_reversed :
    ∃ (first second : Draft) (payload other : Bytes) (tx : Transaction),
      first.sender = second.receiver ∧ first.receiver = second.sender
        ∧ first.payload = .ok payload ∧ second.payload = .ok other ∧ payload ≠ other
        ∧ payload.length = 94 ∧ Draft.read? payload = some first
        ∧ first.build = .ok tx ∧ first.digest = .ok tx.digest
        ∧ ({ first with sender := [1], receiver := [] } : Draft).build
          = .error ⟨.sender, 32, 1⟩ := by
  let payer : Bytes := List.replicate 32 1
  let payee : Bytes := List.replicate 32 2
  let action : Action := .nativeTransfer 18446744073709551615
  let first : Draft := ⟨payer, payee, 18446744073709551615, action⟩
  let second : Draft := ⟨payee, payer, 18446744073709551615, action⟩
  let short : Draft := ⟨[1], [], 18446744073709551615, action⟩
  obtain ⟨hpayload, -, hsame, herror, hbuild⟩ := payload_tells_its_fields
  obtain ⟨⟨-, hmade⟩, -, -, hfields⟩ := hpayload first
  obtain ⟨⟨-, hmade'⟩, -⟩ := hpayload second
  obtain ⟨payload, hfirst⟩ := hmade ⟨by decide, by decide⟩
  obtain ⟨other, hsecond⟩ := hmade' ⟨by decide, by decide⟩
  obtain ⟨hlaid, hread⟩ := hfields payload hfirst
  have hne : first ≠ second := by decide
  obtain ⟨-, hshort, -⟩ := hpayload short
  -- Building makes no complaint, as there is none about the payload.
  cases htx : first.build with
  | error e =>
      have hnone := (herror first e).mp htx
      rw [hfirst] at hnone
      cases hnone
  | ok tx =>
      obtain ⟨-, hdigest, -⟩ := hbuild first tx htx
      refine ⟨first, second, payload, other, tx, rfl, rfl, hfirst, hsecond, ?_, hlaid.length,
        hread, htx, hdigest, ?_⟩
      · exact fun heq => hne ((hsame first second payload other hfirst hsecond).mp heq)
      · exact (herror short ⟨.sender, 32, 1⟩).mpr (hshort (by decide))

end Custody
