import Custody.Password
import Custody.Proofs.Text.Lowercase

/-!
# `Custody.Proofs.Password`: strong passwords

What a password is rated for, in plain terms: it is long, it has both cases, a number and a symbol,
and it does not begin as many passwords do (`IsStrong`). Of letters only those of ASCII count, and
so they do for the beginning: the rating lowers the whole password, but no other letter becomes one
of those that a common pattern is made of (`startsCommonly_iff`).

A rule that is not met costs a point and gives an advice. `strength_score`, `strength_feedback` and
`strength_isStrong` say what comes of it. The beginning is all that a longer password could lose by,
and it is that of the shorter one (`IsStrong.append`).
-/

set_option autoImplicit false

namespace Custody.Password

open Text

/-! ### What passwords are rated for -/

/-- Long enough. -/
def IsLong (password : String) : Prop := 12 ≤ password.length

/-- Letters of both cases. -/
def IsMixed (password : String) : Prop :=
  (∃ c ∈ password.toList, 'a' ≤ c ∧ c ≤ 'z') ∧ ∃ c ∈ password.toList, 'A' ≤ c ∧ c ≤ 'Z'

/-- One of its characters is a digit. -/
def HasNumber (password : String) : Prop := ∃ c ∈ password.toList, '0' ≤ c ∧ c ≤ '9'

/-- Anything that is neither a letter nor a digit of ASCII is a symbol. -/
def HasSymbol (password : String) : Prop :=
  ∃ c ∈ password.toList,
    ¬ (('A' ≤ c ∧ c ≤ 'Z') ∨ ('a' ≤ c ∧ c ≤ 'z') ∨ ('0' ≤ c ∧ c ≤ '9'))

/-- The password begins with a common pattern. Only letters of ASCII may be in another case. -/
def StartsCommonly (password : String) : Prop :=
  ∃ pattern ∈ ["123", "abc", "password", "qwerty"],
    pattern.toList <+: password.toList.map Char.toLower

/-- A look at the length decides whether a password is long enough. -/
instance (password : String) : Decidable (IsLong password) :=
  inferInstanceAs (Decidable (12 ≤ password.length))

/-- A look at every character decides whether it has letters of both cases. -/
instance (password : String) : Decidable (IsMixed password) :=
  decidable_of_iff ((password.toList.any fun c => 'a' ≤ c ∧ c ≤ 'z') = true
      ∧ (password.toList.any fun c => 'A' ≤ c ∧ c ≤ 'Z') = true)
    (by simp only [List.any_eq_true, decide_eq_true_eq, IsMixed])

/-- Another look decides whether it has a digit. -/
instance (password : String) : Decidable (HasNumber password) :=
  decidable_of_iff ((password.toList.any fun c => '0' ≤ c ∧ c ≤ '9') = true)
    (by simp only [List.any_eq_true, decide_eq_true_eq, HasNumber])

/-- Another look decides whether it has a symbol. -/
instance (password : String) : Decidable (HasSymbol password) :=
  decidable_of_iff ((password.toList.any fun c =>
      ¬ (('A' ≤ c ∧ c ≤ 'Z') ∨ ('a' ≤ c ∧ c ≤ 'z') ∨ ('0' ≤ c ∧ c ≤ '9'))) = true)
    (by simp only [List.any_eq_true, decide_eq_true_eq, HasSymbol])

/-- A look at each of the patterns decides whether it begins with one. -/
instance (password : String) : Decidable (StartsCommonly password) :=
  decidable_of_iff ((["123", "abc", "password", "qwerty"].any fun pattern =>
      pattern.toList.isPrefixOf (password.toList.map Char.toLower)) = true)
    (by simp only [List.any_eq_true, List.isPrefixOf_iff_prefix, StartsCommonly])

/-- A password that can be given to a new wallet. -/
def IsStrong (password : String) : Prop :=
  IsLong password ∧ IsMixed password ∧ HasNumber password ∧ HasSymbol password
    ∧ ¬ StartsCommonly password

/-- A password is strong or not, and that can be decided. -/
instance (password : String) : Decidable (IsStrong password) :=
  inferInstanceAs (Decidable (_ ∧ _))

/-- How many of the four rules that earn a point are met. -/
def met (password : String) : Nat :=
  (if IsLong password then 1 else 0) + (if IsMixed password then 1 else 0)
    + (if HasNumber password then 1 else 0) + (if HasSymbol password then 1 else 0)

/-- One for a common beginning. -/
def penalty (password : String) : Nat := if StartsCommonly password then 1 else 0

variable (password : String)

/-- The small letters are those from `a` to `z`. -/
theorem isLower_iff (c : Char) : c.isLower = true ↔ 'a' ≤ c ∧ c ≤ 'z' := by
  have hboth : c.isLower = (decide ('a' ≤ c) && decide (c ≤ 'z')) := rfl
  rw [hboth, Bool.and_eq_true, decide_eq_true_eq, decide_eq_true_eq]

/-- The capital letters are those from `A` to `Z`. -/
theorem isUpper_iff (c : Char) : c.isUpper = true ↔ 'A' ≤ c ∧ c ≤ 'Z' := by
  have hboth : c.isUpper = decide ('A' ≤ c ∧ c ≤ 'Z') := rfl
  rw [hboth, decide_eq_true_eq]

/-- The digits are those from `0` to `9`. -/
theorem isDigit_iff (c : Char) : c.isDigit = true ↔ '0' ≤ c ∧ c ≤ '9' := by
  have hboth : c.isDigit = (decide ('0' ≤ c) && decide (c ≤ '9')) := rfl
  rw [hboth, Bool.and_eq_true, decide_eq_true_eq, decide_eq_true_eq]

/-- Letters and digits are all of these. -/
theorem isAlphanum_iff (c : Char) :
    c.isAlphanum = true
      ↔ ('A' ≤ c ∧ c ≤ 'Z') ∨ ('a' ≤ c ∧ c ≤ 'z') ∨ ('0' ≤ c ∧ c ≤ '9') := by
  have hany : c.isAlphanum = (c.isUpper || c.isLower || c.isDigit) := rfl
  rw [hany, Bool.or_eq_true, Bool.or_eq_true, isUpper_iff, isLower_iff, isDigit_iff, or_assoc]

/-- The rules ask for what they should. -/
theorem map_rules :
    rules.map (fun rule => rule.1 password.toList)
      = [decide (IsLong password), decide (IsMixed password), decide (HasNumber password),
        decide (HasSymbol password)] := by
  have hlong : (decide (minLength ≤ password.toList.length)) = decide (IsLong password) := by
    rw [String.length_toList]
    rfl
  have hmixed : (password.toList.any Char.isLower && password.toList.any Char.isUpper)
      = decide (IsMixed password) := by
    rw [Bool.eq_iff_iff]
    simp only [Bool.and_eq_true, List.any_eq_true, isLower_iff, isUpper_iff, decide_eq_true_eq]
    rfl
  have hnumber : password.toList.any Char.isDigit = decide (HasNumber password) := by
    rw [Bool.eq_iff_iff]
    simp only [List.any_eq_true, isDigit_iff, decide_eq_true_eq]
    rfl
  have hsymbol : (password.toList.any fun c => !c.isAlphanum) = decide (HasSymbol password) := by
    rw [Bool.eq_iff_iff]
    simp only [List.any_eq_true, Bool.not_eq_true', Bool.eq_false_iff, ne_eq, isAlphanum_iff,
      decide_eq_true_eq]
    rfl
  simp only [rules, List.map_cons, List.map_nil, hlong, hmixed, hnumber, hsymbol]

/-- Every rule that is met earns a point. -/
theorem length_filter_rules :
    (rules.filter fun (rule, _) => rule password.toList).length = met password := by
  have hcount : (rules.map fun rule => rule.1 password.toList).count true = met password := by
    rw [map_rules]
    simp only [List.count_cons, List.count_nil, beq_iff_eq, decide_eq_true_eq, met]
    omega
  rw [← hcount, List.count, List.countP_map, List.countP_eq_length_filter]
  exact congrArg List.length (List.filter_congr fun rule _ => (beq_true _).symm)

/-- Every other one gives an advice. -/
theorem length_filter_not_rules :
    (rules.filter fun (rule, _) => !rule password.toList).length = 4 - met password := by
  have hfour : rules.length = 4 := rfl
  have hall : rules.length = (rules.filter fun (rule, _) => rule password.toList).length
      + (rules.filter fun (rule, _) => !rule password.toList).length :=
    List.length_eq_length_filter_add fun rule : (List Char → Bool) × String =>
      rule.1 password.toList
  rw [length_filter_rules] at hall
  omega

/-- The four points. -/
theorem met_le : met password ≤ 4 := by
  rw [← length_filter_rules]
  exact List.length_filter_le _ rules

/-! ### Common beginnings -/

/-- Every way to write the password in lower case begins with a common pattern if the password does
so in ASCII, and only then. -/
theorem startsCommonly_iff {lowered : List Char} (h : LowersTo password.toList lowered) :
    (∃ pattern ∈ commonPrefixes, pattern.toList <+: lowered) ↔ StartsCommonly password := by
  have hall : ∀ pattern ∈ commonPrefixes, pattern.toList.all isFirm = true := by decide +kernel
  have hfirm := fun pattern hpattern => List.all_eq_true.mp (hall pattern hpattern)
  constructor
  · rintro ⟨pattern, hpattern, hfront⟩
    exact ⟨pattern, hpattern, (h.isPrefix_iff (hfirm pattern hpattern)).mp hfront⟩
  · rintro ⟨pattern, hpattern, hfront⟩
    exact ⟨pattern, hpattern, (h.isPrefix_iff (hfirm pattern hpattern)).mpr hfront⟩

/-- A common start is found if there is one. -/
theorem hasCommonPrefix_iff :
    hasCommonPrefix password.toList = true ↔ StartsCommonly password := by
  rw [← startsCommonly_iff password (lowersTo_lower _)]
  simp only [hasCommonPrefix, List.any_eq_true, List.isPrefixOf_iff_prefix]

/-! ### The rating -/

/-- The points that are left, the number of advices and the verdict. -/
theorem strength_eq :
    (strength password).score.toNat = met password - 2 * penalty password
      ∧ (strength password).feedback.length = 4 - met password + penalty password
      ∧ (strength password).isStrong = decide (4 ≤ met password - 2 * penalty password) := by
  have hle := met_le password
  have hmin : min (met password) maxScore = met password := Nat.min_eq_left hle
  have hsize : UInt8.size = 256 := rfl
  have hpenalty : patternPenalty = 2 := rfl
  have hmax : maxScore = 4 := rfl
  unfold strength
  simp only [length_filter_rules, hmin]
  by_cases h : StartsCommonly password
  · rw [if_pos ((hasCommonPrefix_iff password).mpr h), penalty, if_pos h]
    simp only [hpenalty, hmax, Nat.mul_one, List.length_append, List.length_map,
      List.length_singleton, length_filter_not_rules]
    exact ⟨UInt8.toNat_ofNat_of_lt' (by omega), trivial, trivial⟩
  · rw [if_neg (mt (hasCommonPrefix_iff password).mp h), penalty, if_neg h]
    simp only [hmax, Nat.mul_zero, Nat.sub_zero, Nat.add_zero, List.length_map,
      length_filter_not_rules]
    exact ⟨UInt8.toNat_ofNat_of_lt' (by omega), trivial, trivial⟩

/-- All four requirements are counted if all four are met. -/
theorem met_eq_four_iff :
    met password = 4
      ↔ IsLong password ∧ IsMixed password ∧ HasNumber password ∧ HasSymbol password := by
  unfold met
  by_cases hlong : IsLong password <;> by_cases hmixed : IsMixed password
    <;> by_cases hnumber : HasNumber password <;> by_cases hsymbol : HasSymbol password
    <;> simp [hlong, hmixed, hnumber, hsymbol]

/-- A strong password has all points and no penalty. -/
theorem isStrong_iff : IsStrong password ↔ met password = 4 ∧ penalty password = 0 := by
  have hpenalty : penalty password = 0 ↔ ¬ StartsCommonly password := by
    unfold penalty
    split <;> simp_all
  rw [met_eq_four_iff, hpenalty]
  unfold IsStrong
  simp only [and_assoc]

/-- What is found strong is strong, and only that. -/
theorem isStrong_strength_iff : (strength password).isStrong = true ↔ IsStrong password := by
  have hle := met_le password
  rw [(strength_eq password).2.2, decide_eq_true_eq, isStrong_iff]
  omega

/-- Whatever is appended to a strong password leaves it strong. -/
theorem IsStrong.append {password : String} (h : IsStrong password) (more : String) :
    IsStrong (password ++ more) := by
  obtain ⟨hlong, ⟨⟨lower, hlower, hlowercase⟩, upper, hupper, huppercase⟩, ⟨digit, hdigit, hnumber⟩,
    ⟨other, hother, hsymbol⟩, hcommon⟩ := h
  have hmem : ∀ c ∈ password.toList, c ∈ (password ++ more).toList := by
    intro c hc
    rw [String.toList_append]
    exact List.mem_append_left _ hc
  refine ⟨?_, ⟨⟨lower, hmem _ hlower, hlowercase⟩, upper, hmem _ hupper, huppercase⟩,
    ⟨digit, hmem _ hdigit, hnumber⟩, ⟨other, hmem _ hother, hsymbol⟩, ?_⟩
  · unfold IsLong at hlong ⊢
    rw [String.length_append]
    omega
  · -- A pattern is shorter than the password, so it would have to be all in it.
    have hshort : ∀ pattern ∈ ["123", "abc", "password", "qwerty"], pattern.toList.length ≤ 12 := by
      decide +kernel
    rintro ⟨pattern, hpattern, hfront⟩
    refine hcommon ⟨pattern, hpattern, ?_⟩
    rw [String.toList_append, List.map_append] at hfront
    apply List.prefix_of_prefix_length_le hfront (List.prefix_append _ _)
    rw [List.length_map, String.length_toList]
    exact Nat.le_trans (hshort pattern hpattern) hlong

end Custody.Password
