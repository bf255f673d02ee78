import Custody.Keystore
import Custody.Proofs.Json.Record
import Custody.Proofs.Json.Parse
import Custody.Proofs.Time.Timestamp
import Custody.Session

/-!
# `Custody.Proofs.Stored`: what the wallet stores reads back

Records and sessions are kept as JSON texts. Both come back from what was written, whatever
strings and numbers they hold, with their instants as the texts of these read: `Record.ofText?_text`
for any record and `Session.ofText?_text` for any session. That is exactly the record or session
itself, but for a leap second inside a minute (`Instant.asRead`). A record or session that was read
has none (`Record.isRegular_of_ofText?`), so it comes back unchanged when it is written again.

The keystore looks at the version before anything else. A text it accepts is a record of the
current version (`Keystore.decode_eq_ok`), and it accepts the text of every such record
(`Keystore.decode_text`); records of other versions are refused by their version
(`Keystore.judge`).
-/

set_option autoImplicit false

namespace Custody

open Json.Value (required? absentOr? optional? text? uint32?)

/-- A cost reads back. -/
theorem Kdf.Cost.ofJson?_toJson (cost : Kdf.Cost) : Kdf.Cost.ofJson? cost.toJson = some cost := by
  unfold Kdf.Cost.ofJson? Kdf.Cost.toJson
  rw [Json.Value.fields?_ofMembers]
  simp [Json.Value.only?, Json.Value.required?, Json.Value.uint32?_nat]

/-- A sealed secret reads back. -/
theorem Sealed.ofJson?_toJson (sealed : Sealed) :
    Sealed.ofJson? sealed.toJson = some sealed := by
  unfold Sealed.ofJson? Sealed.toJson
  rw [Json.Value.fields?_ofMembers]
  simp [Json.Value.only?, Json.Value.required?, Kdf.Cost.ofJson?_toJson, Json.Value.text?,
    Json.Value.text]

/-- An instant in a record comes back as it reads. -/
theorem Record.instant?_render (t : Time.Instant) :
    Record.instant? (.text (Time.Timestamp.render t)) = some t.asRead := by
  rw [Record.instant?, Json.Value.text, Json.Value.text?, Option.bind_some,
    Time.Timestamp.parse?_render]

/-- An instant that was read from a record is regular. -/
theorem Record.isRegular_of_instant? {value : Json.Value} {t : Time.Instant}
    (h : Record.instant? value = some t) : t.IsRegular := by
  obtain ⟨text, -, hparse⟩ := Option.bind_eq_some_iff.mp h
  exact Time.Timestamp.isRegular_of_parse? hparse

/-! ### Sessions -/

namespace Session

/-- The session that the text of a session reads as. -/
def asRead (session : Session) : Session :=
  { session with expiresAt := session.expiresAt.asRead }

/-- A session and the session that it reads as have one text. -/
theorem text_asRead (session : Session) : session.asRead.text = session.text := by
  unfold text toJson asRead
  rw [Time.Timestamp.render_asRead]

/-- A session that expires at a regular instant reads as itself. -/
theorem asRead_of_isRegular {session : Session} (h : session.expiresAt.IsRegular) :
    session.asRead = session := by
  rw [asRead, Time.Instant.asRead_of_isRegular h]

/-- From its members, a session comes back as it reads. -/
theorem ofJson?_toJson (session : Session) : ofJson? session.toJson = some session.asRead := by
  unfold ofJson? toJson
  rw [Json.Value.fields?_ofMembers]
  simp [Json.Value.only?, Json.Value.required?, Record.instant?_render]
  rfl

/-- From its text, a session comes back as it reads. -/
theorem ofText?_text (session : Session) : ofText? session.text = some session.asRead := by
  rw [ofText?, text, Json.parse_compact, Option.bind_some, ofJson?_toJson]

end Session

/-! ### Records -/

namespace Record

/-- The record that the text of a record reads as. -/
def asRead (record : Record) : Record :=
  { record with createdAt := record.createdAt.asRead }

/-- A record and the record that it reads as have one text. -/
theorem text_asRead (record : Record) : record.asRead.text = record.text := by
  unfold text toJson asRead
  rw [Time.Timestamp.render_asRead]

/-- A record that was made at a regular instant reads as itself. -/
theorem asRead_of_isRegular {record : Record} (h : record.createdAt.IsRegular) :
    record.asRead = record := by
  rw [asRead, Time.Instant.asRead_of_isRegular h]

/-- A sealed phrase is an object and not `null`. -/
theorem absentOr?_sealed (sealed : Sealed) :
    absentOr? Sealed.ofJson? (some sealed.toJson) = some (some sealed) := by
  have h := Sealed.ofJson?_toJson sealed
  -- An object is what `optional?` needs to see in order not to take it for `null`.
  unfold Sealed.toJson Json.Value.ofMembers at *
  simp only [absentOr?, optional?, h, Option.map_some]

/-- From its members, a record comes back as it reads. -/
theorem ofJson?_toJson (record : Record) : ofJson? record.toJson = some record.asRead := by
  obtain ⟨version, address, publicKey, privateKey, phrase, createdAt⟩ := record
  unfold ofJson? toJson
  rw [Json.Value.fields?_ofMembers]
  cases phrase with
  | none =>
      simp [Json.Value.only?, Json.Value.required?, Json.Value.uint32?_nat,
        Sealed.ofJson?_toJson, instant?_render, absentOr?]
      rfl
  | some phrase =>
      simp [Json.Value.only?, Json.Value.required?, Json.Value.uint32?_nat,
        Sealed.ofJson?_toJson, instant?_render, absentOr?_sealed]
      rfl

/-- From its text, a record comes back as it reads. -/
theorem ofText?_text (record : Record) : ofText? record.text = some record.asRead := by
  rw [ofText?, text, Json.parse_compact, Option.bind_some, ofJson?_toJson]

/-- The version of a record can be read off its text by itself. -/
theorem versionOf?_text (record : Record) : versionOf? record.text = some record.version := by
  obtain ⟨version, address, publicKey, privateKey, phrase, createdAt⟩ := record
  unfold versionOf? text toJson
  rw [Json.parse_compact]
  cases phrase <;>
    simp [Json.Value.fields?_ofMembers, Json.Value.only?, Json.Value.required?,
      Json.Value.uint32?_nat]

/-- The version of a record is the first of the fields that it was read from. -/
theorem version_of_ofJson? {value : Json.Value} {record : Record}
    (h : ofJson? value = some record) :
    ∃ names field fields, names ≠ [] ∧ value.fields? ("version" :: names) = some (field :: fields)
      ∧ required? uint32? field = some record.version := by
  unfold ofJson? at h
  split at h
  · rename_i hfields
    obtain ⟨version, hversion, hrest⟩ := Option.bind_eq_some_iff.mp h
    simp only [Option.bind_eq_bind, Option.bind_eq_some_iff, Option.some.injEq] at hrest
    obtain ⟨_, -, _, -, _, -, _, -, _, -, rfl⟩ := hrest
    exact ⟨_, _, _, by simp, hfields, hversion⟩
  · cases h

/-- What was read as a record was made at a regular instant. -/
theorem isRegular_of_ofText? {text : String} {record : Record} (h : ofText? text = some record) :
    record.createdAt.IsRegular := by
  obtain ⟨value, -, hread⟩ := Option.bind_eq_some_iff.mp h
  unfold ofJson? at hread
  split at hread
  · simp only [Option.bind_eq_bind, Option.bind_eq_some_iff, Option.some.injEq] at hread
    obtain ⟨_, -, _, -, _, -, _, -, _, -, createdAt, hcreated, rfl⟩ := hread
    obtain ⟨value, -, hinstant⟩ := Option.bind_eq_some_iff.mp hcreated
    exact isRegular_of_instant? hinstant
  · cases hread

/-- Where a text is both looked at for its version and read as a record, the two agree. -/
theorem version_of_ofText? {text : String} {record : Record} {version : UInt32}
    (hrecord : ofText? text = some record) (hversion : versionOf? text = some version) :
    record.version = version := by
  obtain ⟨value, hparse, hread⟩ := Option.bind_eq_some_iff.mp hrecord
  obtain ⟨names, field, fields, hnames, hfields, hfield⟩ := version_of_ofJson? hread
  unfold versionOf? at hversion
  rw [hparse, Option.bind_eq_bind, Option.bind_some] at hversion
  split at hversion
  · rename_i other hother
    -- The version that was looked at is the first field of the record.
    obtain rfl := Json.Value.eq_of_fields? hnames hfields hother
    exact Option.some.inj (hfield.symm.trans hversion)
  · cases hversion

end Record

namespace Keystore

/-- An accepted text is the text of a record of the current version. -/
theorem decode_eq_ok {text : String} {record : Record} (h : decode text = .ok record) :
    Record.ofText? text = some record ∧ record.version = recordVersion := by
  unfold decode at h
  split at h
  · cases h
  · rename_i version hversion
    split at h
    · cases h
    · rename_i hcurrent
      split at h
      · cases h
      · rename_i found hfound
        cases h
        refine ⟨hfound, ?_⟩
        rw [Record.version_of_ofText? hfound hversion]
        exact Decidable.not_not.mp hcurrent

/-- What is answered for a record that could be read: the record, or that its version is not
supported. -/
def judge (record : Record) : Except WalletError Record :=
  if record.version = recordVersion then .ok record
  else .error (.unsupportedVersion record.version)

/-- A record that can be read is judged by its version. -/
theorem decode_of_record {text : String} {record : Record}
    (hversion : Record.versionOf? text = some record.version)
    (hrecord : Record.ofText? text = some record) : decode text = judge record := by
  unfold decode judge
  rw [hversion, hrecord]
  by_cases hcurrent : record.version = recordVersion
  · simp [hcurrent]
  · simp [hcurrent]

/-- The text of a record is judged like the record that it reads as. -/
theorem decode_record_text (record : Record) : decode record.text = judge record.asRead := by
  have hversion : Record.versionOf? record.text = some record.asRead.version :=
    record.versionOf?_text
  exact decode_of_record hversion record.ofText?_text

/-- The text of a record of the current version is accepted. -/
theorem decode_text (record : Record) (h : record.version = recordVersion) :
    decode record.text = .ok record.asRead :=
  (decode_record_text record).trans (if_pos h)

end Keystore

end Custody
