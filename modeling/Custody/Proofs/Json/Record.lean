import Custody.Json.Record

/-!
# `Custody.Proofs.Json.Record`: fields that read back

A record is written as an object and read field by field. Its fields are looked up among the
members that the object was made of (`fields?_ofMembers`), a number in its range reads as the
number it is, and a list reads back where its items do (`list?_map`).

Of an object that somebody else wrote, one field is found exactly if all keys spell texts and one
of them alone is the name of the field (`HasOnce`, `hasOnce_iff`).
-/

set_option autoImplicit false

namespace Custody.Json.Value

/-! ### Looking up fields -/

/-- Written keys all spell a text. -/
theorem keyed?_map (members : List (String × Value)) :
    keyed? (members.map fun (key, value) => (some key, value)) = some members := by
  induction members with
  | nil => rfl
  | cons member rest ih =>
      rw [List.map_cons, keyed?, ih]
      rfl

/-- The keys of an object all spell a text exactly if it was made of members with texts as keys. -/
theorem keyed?_eq_some_iff {members : List (Spelled × Value)} {named : List (String × Value)} :
    keyed? members = some named ↔ members = named.map fun (key, value) => (some key, value) := by
  constructor
  · intro h
    induction members generalizing named with
    | nil => cases h; rfl
    | cons member rest ih =>
        obtain ⟨key, value⟩ := member
        cases key with
        | none => cases h
        | some key =>
            obtain ⟨others, hothers, rfl⟩ := Option.map_eq_some_iff.mp h
            rw [List.map_cons, ← ih hothers]
  · rintro rfl
    exact keyed?_map named

/-- Keys that are all there can be read. -/
theorem exists_keyed? {members : List (Spelled × Value)}
    (h : ∀ member ∈ members, member.1.isSome = true) : ∃ named, keyed? members = some named := by
  induction members with
  | nil => exact ⟨[], rfl⟩
  | cons member rest ih =>
      obtain ⟨key, value⟩ := member
      obtain ⟨key, rfl⟩ := Option.isSome_iff_exists.mp (h _ List.mem_cons_self)
      obtain ⟨named, hnamed⟩ := ih fun member hmem => h member (List.mem_cons_of_mem _ hmem)
      exact ⟨(key, value) :: named, by rw [keyed?, hnamed, Option.map_some]⟩

/-- A key is found with its value exactly if it comes once. -/
theorem only?_eq_some_iff {name : String} {members : List (String × Value)} {value : Value} :
    only? name members = some (some value)
      ↔ (members.filter fun (key, _) => key = name) = [(name, value)] := by
  rw [only?]
  constructor
  · intro h
    split at h
    · cases h
    · rename_i key found hfilter
      cases h
      have hmem : (key, value) ∈ members.filter fun (key, _) => key = name := by
        rw [hfilter]
        exact List.mem_cons_self
      obtain rfl : key = name := by simpa using (List.mem_filter.mp hmem).2
      exact hfilter
    · cases h
  · intro h
    rw [h]

/-- All keys of an object spell a text, and one of them alone is this one. -/
structure HasOnce (name : String) (members : List (Spelled × Value)) (value : Value) : Prop where
  spelled : ∀ member ∈ members, member.1.isSome = true
  once : members.filter (fun member => member.1 = some name) = [(some name, value)]

/-- One field of an object is found exactly if the object has it once. -/
theorem hasOnce_iff {name : String} {members : List (Spelled × Value)} {value : Value} :
    HasOnce name members value
      ↔ ∃ named, keyed? members = some named ∧ only? name named = some (some value) := by
  -- Looking a key up among the texts is looking it up among what spells them.
  have hfilter (named : List (String × Value)) :
      (named.map fun (key, value) => ((some key, value) : Spelled × Value)).filter
          (fun member => member.1 = some name)
        = (named.filter fun (key, _) => key = name).map fun (key, value) => (some key, value) := by
    rw [List.filter_map]
    simp [Function.comp_def]
  have hinjective (first second : String × Value)
      (h : ((some first.1, first.2) : Spelled × Value) = (some second.1, second.2)) :
      first = second := by
    obtain ⟨key, value⟩ := first
    cases h
    rfl
  constructor
  · rintro ⟨hspelled, honce⟩
    obtain ⟨named, hnamed⟩ := exists_keyed? hspelled
    refine ⟨named, hnamed, only?_eq_some_iff.mpr ?_⟩
    rw [keyed?_eq_some_iff.mp hnamed, hfilter] at honce
    exact (List.map_inj_right hinjective).mp honce
  · rintro ⟨named, hnamed, honly⟩
    obtain rfl := keyed?_eq_some_iff.mp hnamed
    refine ⟨?_, ?_⟩
    · intro member hmem
      obtain ⟨named, -, rfl⟩ := List.mem_map.mp hmem
      rfl
    · rw [hfilter, only?_eq_some_iff.mp honly]
      rfl

/-- The fields of an object are looked up among the members it was made of. -/
theorem fields?_ofMembers (names : List String) (members : List (String × Value)) :
    fields? names (ofMembers members) = names.mapM fun name => only? name members := by
  rw [ofMembers, fields?, keyed?_map]

/-- The first of several fields of an object can be looked up by itself. -/
theorem fields?_first {name : String} {names : List String} {members : List (Spelled × Value)}
    {field : Option Value} {fields : List (Option Value)}
    (h : fields? (name :: names) (.object members) = some (field :: fields)) :
    ∃ named, keyed? members = some named ∧ only? name named = some field := by
  cases hkeyed : keyed? members with
  | none => simp [fields?, hkeyed] at h
  | some named =>
      simp only [fields?, hkeyed, List.mapM_cons, Option.bind_eq_bind, Option.bind_eq_some_iff,
        Option.pure_def, Option.some.injEq, List.cons.injEq] at h
      obtain ⟨first, hfirst, -, -, rfl, -⟩ := h
      exact ⟨named, rfl, hfirst⟩

/-- The first of several fields is what it is by itself. Only an object has both: an array
cannot have one item and several. -/
theorem eq_of_fields? {name : String} {names : List String} (hnames : names ≠ [])
    {value : Value} {field other : Option Value} {fields : List (Option Value)}
    (hall : value.fields? (name :: names) = some (field :: fields))
    (hone : value.fields? [name] = some [other]) : field = other := by
  cases value with
  | array items =>
      simp only [fields?, Option.ite_none_right_eq_some, List.length_cons, List.length_nil]
        at hall hone
      -- An array of one item has no second field, and `names` asks for one.
      have hlength := List.length_pos_iff.mpr hnames
      omega
  | object members =>
      obtain ⟨named, hnamed, hfirst⟩ := fields?_first hall
      obtain ⟨named', hnamed', hsecond⟩ := fields?_first hone
      cases hnamed.symm.trans hnamed'
      exact Option.some.inj (hfirst.symm.trans hsecond)
  | null => cases hall
  | bool b => cases hall
  | nat n => cases hall
  | otherNumber => cases hall
  | string s => cases hall

/-! ### Reading fields -/

/-- A number of one byte reads back. -/
theorem uint8?_nat (n : UInt8) : uint8? (.nat n.toNat) = some n := by
  simp [uint8?, natBelow?, UInt8.toNat_lt_size]

/-- A number of four bytes reads back. -/
theorem uint32?_nat (n : UInt32) : uint32? (.nat n.toNat) = some n := by
  simp [uint32?, natBelow?, UInt32.toNat_lt_size]

/-- What reads as a number is that number. -/
theorem uint32?_eq_some_iff {value : Value} {n : UInt32} :
    value.uint32? = some n ↔ value = .nat n.toNat := by
  constructor
  · intro h
    obtain ⟨m, hm, rfl⟩ := Option.map_eq_some_iff.mp h
    cases value with
    | nat k =>
        obtain ⟨hlt, hk⟩ := Option.ite_none_right_eq_some.mp hm
        cases hk
        rw [UInt32.toNat_ofNat_of_lt' hlt]
    | _ => cases hm
  · rintro rfl
    exact uint32?_nat n

/-- A number of eight bytes reads back. -/
theorem uint64?_nat (n : UInt64) : uint64? (.nat n.toNat) = some n := by
  simp [uint64?, natBelow?, UInt64.toNat_lt_size]

/-- A list reads back item by item. -/
theorem list?_map {α : Type} {item : Value → Option α} {write : α → Value}
    (h : ∀ a, item (write a) = some a) (as : List α) :
    list? item (.array (as.map write)) = some as := by
  show (as.map write).mapM item = some as
  induction as with
  | nil => rfl
  | cons a as ih =>
      rw [List.map_cons, List.mapM_cons, h, ih]
      rfl

end Custody.Json.Value
