import Custody.Proofs.Wallet.Kept

/-!
# `Custody.Proofs.Keystore`: what a look at the stored record answers

The text of a record is parsed twice: for its version alone, and then for the whole record. The
two never disagree. An object gives its version exactly if all its keys spell texts and `version`
is one of them alone (`Record.versionOf?_eq_some_iff`), and a record that an object reads as has
the version that the object gives (`Record.versionOf?_of_ofText?`).

So `Keystore.decode` has three answers for an object: the record or the refusal of its version,
the refusal of a version that nothing else was asked about, and the refusal of the text
(`Keystore.decode_of_record`, `Keystore.decode_of_version`, `Keystore.decode_of_neither`).
`Keystore.load_never_misjudges` says this of the store.

A record that was saved is read back, as its text reads: that is the record itself, unless it was
made inside a leap second that does not end a minute (`Record.asRead`). There the record that is
read was made in the second after (`Keystore.load_misdates`).
-/

set_option autoImplicit false

namespace Custody

open Command
open Json (IsTextOf)
open Json.Value (HasOnce)

/-! ### The version of an object -/

namespace Record

variable {text : String} {members : List (Json.Spelled × Json.Value)}

/-- An object gives a version exactly if that is its only `version`. -/
theorem versionOf?_eq_some_iff (htext : IsTextOf (.object members) text) {version : UInt32} :
    versionOf? text = some version ↔ HasOnce "version" members (.nat version.toNat) := by
  unfold versionOf?
  rw [Json.parse_eq_some_iff.mpr htext, Json.Value.hasOnce_iff, Option.bind_eq_bind,
    Option.bind_some]
  constructor
  · intro h
    split at h
    · rename_i field hfields
      obtain ⟨named, hnamed, honly⟩ := Json.Value.fields?_first hfields
      obtain ⟨value, rfl, hread⟩ := Option.bind_eq_some_iff.mp h
      rw [Json.Value.uint32?_eq_some_iff.mp hread] at honly
      exact ⟨named, hnamed, honly⟩
    · cases h
  · rintro ⟨named, hnamed, honly⟩
    simp [Json.Value.fields?, hnamed, honly, Json.Value.required?, Json.Value.uint32?_nat]

/-- A record that an object reads as has the version that the object gives. -/
theorem versionOf?_of_ofText? (htext : IsTextOf (.object members) text) {record : Record}
    (h : ofText? text = some record) : versionOf? text = some record.version := by
  rw [ofText?, Json.parse_eq_some_iff.mpr htext, Option.bind_some] at h
  obtain ⟨names, field, fields, -, hfields, hfield⟩ := version_of_ofJson? h
  obtain ⟨named, hnamed, honly⟩ := Json.Value.fields?_first hfields
  obtain ⟨value, rfl, hread⟩ := Option.bind_eq_some_iff.mp hfield
  rw [Json.Value.uint32?_eq_some_iff.mp hread] at honly
  rw [versionOf?_eq_some_iff htext, Json.Value.hasOnce_iff]
  exact ⟨named, hnamed, honly⟩

end Record

/-! ### Judging a text -/

namespace Keystore

variable {text : String}

/-- Of another version nothing is looked at but the version. -/
theorem decode_of_version {version : UInt32} (hversion : Record.versionOf? text = some version)
    (hother : version ≠ recordVersion) : decode text = .error (.unsupportedVersion version) := by
  unfold decode
  rw [hversion]
  exact if_pos hother

/-- What is neither a record nor of another version is refused as it is. -/
theorem decode_of_neither (hrecord : Record.ofText? text = none)
    (hversion : ∀ version, Record.versionOf? text = some version → version = recordVersion) :
    decode text = .error (.corruptRecord .unreadable) := by
  unfold decode
  cases hfound : Record.versionOf? text with
  | none => rfl
  | some version =>
      -- The version is the current one, and then the record decides.
      simp [hversion version hfound, hrecord]

/-- A text that is no JSON is neither. -/
theorem decode_of_no_json (h : ∀ value, ¬ IsTextOf value text) :
    decode text = .error (.corruptRecord .unreadable) := by
  have hparse := Json.parse_eq_none_iff.mpr h
  have hversion : Record.versionOf? text = none := by
    unfold Record.versionOf?
    rw [hparse]
    rfl
  refine decode_of_neither ?_ fun version hfound => ?_
  · rw [Record.ofText?, hparse]
    rfl
  · rw [hversion] at hfound
    cases hfound

/-! ### Looking at the store -/

variable {world : World}

/-- A look at the record is a read, whatever it answers and whatever the store does. -/
theorem snd_runIn_load : (load.runIn world).2 = world.read := by
  cases hload : load.runIn world with
  | mk answer after =>
      cases answer with
      | ok found => exact (load_eq_ok hload).1
      | error e => exact load_eq_error hload

/-- A look at a stored text answers what the text decodes to. -/
theorem fst_runIn_load (hsound : world.Sound)
    (hslot : world.store.slots.lookup? Store.walletKey = some (.text text)) :
    (load.runIn world).1 = (decode text).map some := by
  unfold load
  rw [runIn_bind, runIn_get hsound, hslot]
  show ((answer (decode text) >>= fun record => pure (some record)).runIn world.read).1 = _
  rw [runIn_bind, runIn_answer]
  cases decode text <;> rfl

/-- What was saved is looked at next. -/
theorem fst_runIn_load_save (hsound : world.Sound) (record : Record) :
    ∃ after, (save record).runIn world = (.ok (), after)
      ∧ (load.runIn after).1 = (judge record.asRead).map some := by
  refine ⟨_, runIn_set_sound hsound _ _, ?_⟩
  have hslot : (world.wrote (.set Store.walletKey record.text .done)).store.slots.lookup?
      Store.walletKey = some (.text record.text) := Store.Slots.lookup?_insert_self
  rw [fst_runIn_load (hsound.wrote _) hslot, decode_record_text]

/-- What was saved is given back as it reads, and is refused by its version if that is not the
current one. A stored object is judged by the record that it reads as; if it has one `version`,
another than the current one, it is refused by that, whatever else it holds; any other object is
refused as a text, and so is what is no JSON. Looking at the record writes nothing. -/
theorem load_never_misjudges :
    (∀ (record : Record) (world : World), world.Sound →
        ∃ after, (save record).runIn world = (.ok (), after)
          ∧ (load.runIn after).1 = (judge record.asRead).map some)
      ∧ (∀ (world : World) (text : String), world.Sound →
        world.store.slots.lookup? Store.walletKey = some (.text text) →
          (∀ members, IsTextOf (.object members) text →
            (∀ record, Record.ofText? text = some record →
              (load.runIn world).1 = (judge record).map some)
            ∧ (∀ version, version ≠ recordVersion →
              HasOnce "version" members (.nat version.toNat) →
                (load.runIn world).1 = .error (.unsupportedVersion version))
            ∧ (Record.ofText? text = none →
              (∀ version, version ≠ recordVersion →
                ¬ HasOnce "version" members (.nat version.toNat)) →
                  (load.runIn world).1 = .error (.corruptRecord .unreadable)))
          ∧ ((∀ value, ¬ IsTextOf value text) →
            (load.runIn world).1 = .error (.corruptRecord .unreadable)))
      ∧ ∀ world : World, (load.runIn world).2.store.slots = world.store.slots
        ∧ (load.runIn world).2.store.journal = world.store.journal := by
  refine ⟨fun record world hsound => fst_runIn_load_save hsound record,
    fun world text hsound hslot => ?_, fun world => ?_⟩
  · rw [fst_runIn_load hsound hslot]
    refine ⟨fun members htext => ⟨fun record hrecord => ?_, fun version hother honce => ?_,
      fun hrecord hversion => ?_⟩, fun hnone => ?_⟩
    · rw [decode_of_record (Record.versionOf?_of_ofText? htext hrecord) hrecord]
    · rw [decode_of_version ((Record.versionOf?_eq_some_iff htext).mpr honce) hother]
      rfl
    · rw [decode_of_neither hrecord fun version hfound => ?_]
      · rfl
      · by_contra hother
        exact hversion version hother ((Record.versionOf?_eq_some_iff htext).mp hfound)
    · rw [decode_of_no_json hnone]
      rfl
  · rw [snd_runIn_load]
    exact ⟨rfl, rfl⟩

/-- A text that is no JSON, a record of a later version saved over it, and an object that holds
an old version and another field twice. -/
theorem load_never_misjudges_repeated :
    ∃ (record : Record) (members : List (Json.Spelled × Json.Value)) (text garbage : String)
      (damaged saved old : World),
      (∀ value, ¬ IsTextOf value garbage)
        ∧ damaged.store.slots = [(Store.walletKey, .text garbage)]
        ∧ (load.runIn damaged).1 = .error (.corruptRecord .unreadable)
        ∧ record.version = 3 ∧ (save record).runIn damaged = (.ok (), saved)
        ∧ (load.runIn saved).1 = .error (.unsupportedVersion 3)
        ∧ members
          = [(some "version", .nat 1), (some "address", .text "aa"), (some "address", .null)]
        ∧ IsTextOf (.object members) text ∧ old.store.slots = [(Store.walletKey, .text text)]
        ∧ (load.runIn old).1 = .error (.unsupportedVersion 1) := by
  obtain ⟨hsaves, hjudges, -⟩ := load_never_misjudges
  let holding (text : String) : World :=
    ⟨⟨[(Store.walletKey, .text text)], [], 0, fun _ _ _ => .done⟩, .epoch, .ofBytes []⟩
  have hsound (text : String) : (holding text).Sound := fun _ _ _ => rfl
  have hholds (text : String) :
      (holding text).store.slots.lookup? Store.walletKey = some (.text text) := by
    simp [holding, Store.Slots.lookup?]
  let garbage := String.ofList ['n', 'o']
  have hgarbage : ∀ value, ¬ IsTextOf value garbage := by
    refine Json.parse_eq_none_iff.mp ?_
    rw [Json.parse, String.toList_ofList]
    rfl
  let record : Record := ⟨3, "aa", "aa", ⟨.light, "", ""⟩, none, .epoch⟩
  obtain ⟨saved, hsaved, hlater⟩ := hsaves record (holding garbage) (hsound garbage)
  let members : List (Json.Spelled × Json.Value) :=
    [(some "version", .nat 1), (some "address", .text "aa"), (some "address", .null)]
  have htext : IsTextOf (.object members) _ := Json.isTextOf_compact (.object members)
  have honce : HasOnce "version" members (.nat (1 : UInt32).toNat) :=
    ⟨by simp [members], by simp [members]⟩
  obtain ⟨-, hversion, -⟩ := (hjudges (holding _) _ (hsound _) (hholds _)).1 members htext
  exact ⟨record, members, _, garbage, holding garbage, saved, holding _, hgarbage, rfl,
    (hjudges (holding garbage) _ (hsound _) (hholds _)).2 hgarbage, rfl, hsaved, hlater, rfl, htext,
    rfl, hversion 1 (by decide) honce⟩

/-- A record that was made inside a leap second that does not end a minute. It is saved without an
error, and what is looked at next is another record, made in the next second. -/
theorem load_misdates :
    ∃ (record found : Record) (world saved : World),
      record.version = recordVersion
        ∧ record.createdAt.seconds = 4 ∧ record.createdAt.nanos = 1333333333
        ∧ (save record).runIn world = (.ok (), saved)
        ∧ (load.runIn saved).1 = .ok (some found)
        ∧ found.createdAt.seconds = 5 ∧ found.createdAt.nanos = 333333333
        ∧ found ≠ record := by
  let made : Time.Instant := ⟨4, 1333333333, by decide, by decide, by decide⟩
  let record : Record := ⟨recordVersion, "aa", "aa", ⟨.light, "", ""⟩, none, made⟩
  let world : World := ⟨Store.empty, .epoch, .ofBytes []⟩
  have hsound : world.Sound := fun _ _ _ => rfl
  obtain ⟨saved, hsave, hload⟩ := fst_runIn_load_save hsound record
  have hjudge : judge record.asRead = .ok record.asRead := if_pos rfl
  rw [hjudge] at hload
  have hstray : Time.second ≤ made.nanos ∧ made.seconds % 60 ≠ 59 := by decide
  obtain ⟨hseconds, hnanos⟩ := Time.Instant.asRead_of_stray hstray
  have hrest : made.nanos - Time.second = 333333333 := by decide +kernel
  refine ⟨record, record.asRead, world, saved, rfl, rfl, rfl, hsave, hload, hseconds,
    hnanos.trans hrest, ?_⟩
  intro heq
  -- The two were made in different seconds.
  have hmade : made.asRead = made := congrArg Record.createdAt heq
  rw [hmade] at hseconds
  cases hseconds

end Keystore

end Custody
