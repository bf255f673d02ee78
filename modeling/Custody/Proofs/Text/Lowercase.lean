import Custody.Proofs.Text.Blank
import Mathlib.Data.List.Forall2

/-!
# `Custody.Proofs.Text.Lowercase`: words in lower case

Lowering a text keeps its blanks as they are, so it does not matter whether the blanks around a
text are taken off before or after (`words_lower_trimChars`).

Lower case as Unicode has it writes a sigma at the end of a word in a form of its own. `lower`
does not, and nobody can tell by the words of a phrase: `LowersTo` allows either form for every
sigma, and the words are the same but for this (`sameLetters_words`).

Of the characters outside ASCII, two turn into letters of ASCII (`lowerChar_of_not_ascii`): an i,
with a dot of its own behind it, and a k. So whether a text in lower case begins with given
characters of ASCII, none of them an i or a k, can be told without Unicode
(`LowersTo.isPrefix_iff`).
-/

set_option autoImplicit false

namespace Custody.Text

variable {c d : Char} {cs ds : List Char}

/-! ### Blanks in lower case -/

/-- The code points of all blanks. -/
def blanks : List Nat :=
  [0x9, 0xa, 0xb, 0xc, 0xd, 0x20, 0x85, 0xa0, 0x1680, 0x2000, 0x2001, 0x2002, 0x2003, 0x2004,
    0x2005, 0x2006, 0x2007, 0x2008, 0x2009, 0x200a, 0x2028, 0x2029, 0x202f, 0x205f, 0x3000]

/-- A blank is one of the listed code points. -/
theorem mem_blanks (h : isBlank c = true) : c.toNat ∈ blanks := by
  simp only [isBlank, Bool.or_eq_true, Bool.and_eq_true, decide_eq_true_eq] at h
  simp only [blanks, List.mem_cons, List.not_mem_nil, or_false]
  omega

/-- No run of characters with a lower case meets a blank. -/
theorem lowerChar_of_isBlank (h : isBlank c = true) : lowerChar c = [c] := by
  have hruns : ∀ n ∈ blanks, n ≠ 0x130 ∧ caseRuns.find? (·.moves n) = none := by decide +kernel
  obtain ⟨hne, hnone⟩ := hruns _ (mem_blanks h)
  rw [lowerChar, if_neg hne, hnone]

/-- Lower case is taken part by part. -/
theorem lower_append (cs ds : List Char) : lower (cs ++ ds) = lower cs ++ lower ds :=
  List.flatMap_append

/-- Blanks have no case. -/
theorem lower_of_blanks (h : ∀ c ∈ cs, isBlank c = true) : lower cs = cs :=
  lower_eq_self fun c hc => lowerChar_of_isBlank (h c hc)

/-- The words of a text in lower case do not depend on the blanks around it. -/
theorem words_lower_trimChars (cs : List Char) :
    words (lower (trimChars cs)) = words (lower cs) := by
  obtain ⟨front, back, hsplit, hfront, hback⟩ := exists_trimChars cs
  have hlower : lower cs = front ++ (lower (trimChars cs) ++ back) := by
    have happend := congrArg lower hsplit
    rwa [lower_append, lower_append, lower_of_blanks hfront, lower_of_blanks hback,
      List.append_assoc] at happend
  rw [hlower, words_blanks_append hfront, words_append_of_blanks hback]

/-! ### Forms of the sigma -/

/-- The same letter, where a sigma may be in its final form. -/
def SameLetter (c d : Char) : Prop := d = c ∨ c = '\u03c3' ∧ d = '\u03c2'

/-- The text in lower case, with any of its sigmas in final form. -/
def LowersTo (cs lowered : List Char) : Prop := List.Forall₂ SameLetter (lower cs) lowered

/-- `lower` itself puts none of them in final form. -/
theorem lowersTo_lower (cs : List Char) : LowersTo cs (lower cs) :=
  List.forall₂_same.mpr fun _ _ => .inl rfl

/-- Neither form of the sigma is a blank. -/
theorem SameLetter.isBlank_eq (h : SameLetter c d) : isBlank d = isBlank c := by
  rcases h with rfl | ⟨rfl, rfl⟩
  · rfl
  · decide

/-- Neither form of the sigma is one of the letters that words are made of. -/
theorem SameLetter.eq_of_isPlain (h : SameLetter c d)
    (hplain : isPlain c = true ∨ isPlain d = true) : d = c := by
  rcases h with rfl | ⟨rfl, rfl⟩
  · rfl
  · have hneither : ¬ (isPlain '\u03c3' = true ∨ isPlain '\u03c2' = true) := by decide
    exact absurd hplain hneither

/-- Texts of the same letters have the same words, letter by letter. -/
theorem sameLetters_words (h : List.Forall₂ SameLetter cs ds) :
    List.Forall₂ (List.Forall₂ SameLetter) (words cs) (words ds) := by
  induction h with
  | nil => exact .nil
  | @cons c d rest more hletter hrest ih =>
      have hsame := hletter.isBlank_eq
      by_cases hc : isBlank c = true
      · rw [words_cons_blank hc, words_cons_blank (hsame.trans hc)]
        exact ih
      · have hd : ¬ isBlank d = true := hsame ▸ hc
        cases hrest with
        | nil =>
            rw [words_singleton hc, words_singleton hd]
            exact .cons (.cons hletter .nil) .nil
        | @cons e f rest more hnext hrest =>
            have hsame := hnext.isBlank_eq
            by_cases he : isBlank e = true
            · rw [words_cons_end hc he, words_cons_end hd (hsame.trans he)]
              exact .cons (.cons hletter .nil) ih
            · have hf : ¬ isBlank f = true := hsame ▸ he
              -- The letter joins the first of the words behind it, on both sides.
              obtain ⟨word, others, hwords⟩ := List.exists_cons_of_ne_nil (words_ne_nil he rest)
              rw [hwords] at ih
              obtain ⟨word', others', hword, hothers, hwords'⟩ := List.forall₂_cons_left_iff.mp ih
              rw [words_cons_cons hc he hwords, words_cons_cons hd hf hwords']
              exact .cons (.cons hletter hword) hothers

/-! ### Lower case and ASCII -/

/-- In ASCII, lower case is that of its letters. -/
theorem lowerChar_of_ascii (h : c.toNat < 128) : lowerChar c = [c.toLower] :=
  of_number (P := fun c => lowerChar c = [c.toLower]) (by decide +kernel) h

/-- Outside ASCII there are two characters whose lower case begins in ASCII, a dotted capital I and
the sign for kelvin. -/
theorem lowerChar_of_not_ascii (h : 128 ≤ c.toNat) :
    lowerChar c = ['i', '\u0307'] ∨ lowerChar c = ['k']
      ∨ ∃ d, lowerChar c = [d] ∧ 128 ≤ d.toNat := by
  -- All runs but the first and that of the kelvin sign end outside ASCII, at characters.
  have hruns : ∀ run ∈ caseRuns, run.last < 128
      ∨ (run.first = 0x212a ∧ run.last = 0x212a ∧ run.shift = -8383)
      ∨ (128 ≤ run.first + run.shift
        ∧ (run.last + run.shift < 0xd800
          ∨ (0xdfff < run.first + run.shift ∧ run.last + run.shift < 0x110000))) := by
    decide +kernel
  unfold lowerChar
  split
  · exact .inl rfl
  · refine .inr ?_
    cases hfind : caseRuns.find? (·.moves c.toNat) with
    | none => exact .inr ⟨c, rfl, h⟩
    | some run =>
        have hmoves := List.find?_some hfind
        simp only [CaseRun.moves, Bool.and_eq_true, decide_eq_true_eq] at hmoves
        obtain ⟨⟨hfirst, hlast⟩, -⟩ := hmoves
        rcases hruns run (List.mem_of_find?_eq_some hfind) with
          hascii | ⟨hlow, hhigh, hshift⟩ | ⟨hlow, hhigh⟩
        · omega
        · have hc : c.toNat = 0x212a := by omega
          simp only [hc, hshift]
          exact .inl rfl
        · have hvalid : (c.toNat + run.shift).toNat.isValidChar := by
            show _ < 0xd800 ∨ (0xdfff < _ ∧ _ < 0x110000)
            omega
          refine .inr ⟨_, rfl, ?_⟩
          rw [Char.ofNat, dif_pos hvalid]
          show 128 ≤ (c.toNat + run.shift).toNat
          omega

/-- Outside ASCII, core's lower case changes nothing. -/
theorem toLower_of_not_ascii (h : 128 ≤ c.toNat) : c.toLower = c := by
  have hupper : ¬ (c.val ≥ 'A'.val ∧ c.val ≤ 'Z'.val) := by
    rintro ⟨-, hle⟩
    have hle : c.toNat ≤ 90 := hle
    omega
  exact dif_neg hupper

/-- A character of ASCII that no character outside ASCII turns into. -/
def isFirm (c : Char) : Bool := c.toNat < 128 && c ≠ 'i' && c ≠ 'k'

/-- Such a character comes of its own other case only. -/
theorem lowerChar_cases (hd : isFirm d = true) (c : Char) :
    (c.toLower = d ∧ lowerChar c = [d])
      ∨ (c.toLower ≠ d ∧ ∃ e more, lowerChar c = e :: more ∧ e ≠ d) := by
  simp only [isFirm, Bool.and_eq_true, decide_eq_true_eq] at hd
  obtain ⟨⟨hascii, hi⟩, hk⟩ := hd
  by_cases h : c.toNat < 128
  · rw [lowerChar_of_ascii h]
    by_cases hlower : c.toLower = d
    · exact .inl ⟨hlower, by rw [hlower]⟩
    · exact .inr ⟨hlower, _, _, rfl, hlower⟩
  · have houtside : 128 ≤ c.toNat := by omega
    have hne : ∀ e : Char, 128 ≤ e.toNat → e ≠ d := by
      rintro e he rfl
      omega
    rw [toLower_of_not_ascii houtside]
    refine .inr ⟨hne c houtside, ?_⟩
    rcases lowerChar_of_not_ascii houtside with hlower | hlower | ⟨e, hlower, he⟩
    · exact ⟨_, _, hlower, Ne.symm hi⟩
    · exact ⟨_, _, hlower, Ne.symm hk⟩
    · exact ⟨_, _, hlower, hne e he⟩

/-- A sigma in final form is none either. -/
theorem SameLetter.eq_iff_of_isFirm (hd : isFirm d = true) {e : Char} (h : SameLetter c e) :
    e = d ↔ c = d := by
  rcases h with rfl | ⟨rfl, rfl⟩
  · exact Iff.rfl
  · have hneither : isFirm '\u03c3' = false ∧ isFirm '\u03c2' = false := by decide
    constructor <;> rintro rfl <;> simp [hneither] at hd

/-- So whether a text in lower case begins with such characters can be told by the letters of ASCII
alone, whatever forms its sigmas have. -/
theorem LowersTo.isPrefix_iff {pattern lowered : List Char}
    (hfirm : ∀ d ∈ pattern, isFirm d = true) (h : LowersTo cs lowered) :
    pattern <+: lowered ↔ pattern <+: cs.map Char.toLower := by
  induction pattern generalizing cs lowered with
  | nil => exact iff_of_true List.nil_prefix List.nil_prefix
  | cons d rest ih =>
      obtain ⟨hd, hrest⟩ := List.forall_mem_cons.mp hfirm
      unfold LowersTo lower at h
      cases cs with
      | nil =>
          cases h
          rfl
      | cons c cs =>
          rw [List.flatMap_cons] at h
          rw [List.map_cons, List.cons_prefix_cons]
          rcases lowerChar_cases hd c with ⟨hlower, hsingle⟩ | ⟨hlower, e, more, hcons, hne⟩
          · rw [hsingle, List.singleton_append] at h
            obtain ⟨d', lowered', hletter, hmore, rfl⟩ := List.forall₂_cons_left_iff.mp h
            have heq : d' = d := (hletter.eq_iff_of_isFirm hd).mpr rfl
            rw [List.cons_prefix_cons, ih hrest hmore, hlower, heq]
          · rw [hcons, List.cons_append] at h
            obtain ⟨e', lowered', hletter, hmore, rfl⟩ := List.forall₂_cons_left_iff.mp h
            have hne' : e' ≠ d := fun heq => hne ((hletter.eq_iff_of_isFirm hd).mp heq)
            rw [List.cons_prefix_cons]
            exact iff_of_false (fun h => hne' h.1.symm) fun h => hlower h.1.symm

end Custody.Text
