import Custody.Text.Blank
import Custody.Text.Lowercase

/-!
# `Custody.Proofs.Text.Blank`: words of a text

A blank splits a text: the words are those before it and those after it (`words_append_cons`).
So the words of a text do not depend on the blanks around it (`words_trimChars`). A text is its
trimmed form with blanks around (`exists_trimChars`), and only one of its parts can be that
(`trimChars_append`). Lower-case letters are no blanks and stay as they are when a text is lowered.
-/

set_option autoImplicit false

namespace Custody.Text

/-! ### Words -/

variable {cs word : List Char} {c d : Char}

/-- A blank in front makes no word. -/
theorem words_cons_blank (h : isBlank c = true) (cs : List Char) : words (c :: cs) = words cs := by
  rw [words.eq_def]
  simp only
  rw [if_pos h]

/-- A blank ends the word that comes before it. -/
theorem words_cons_end (h : ¬ isBlank c = true) (hd : isBlank d = true) (cs : List Char) :
    words (c :: d :: cs) = [c] :: words (d :: cs) := by
  rw [words.eq_def]
  simp only
  rw [if_neg h, if_pos hd]

/-- Anything else goes on with it. -/
theorem words_cons_cons (h : ¬ isBlank c = true) (hd : ¬ isBlank d = true)
    {others : List (List Char)} (hwords : words (d :: cs) = word :: others) :
    words (c :: d :: cs) = (c :: word) :: others := by
  rw [words.eq_def]
  simp only
  rw [if_neg h, if_neg hd, hwords]

/-- A character alone is a word. -/
theorem words_singleton (h : ¬ isBlank c = true) : words [c] = [[c]] := by
  rw [words.eq_def]
  simp only
  rw [if_neg h]

/-- A text that begins without a blank begins with a word. -/
theorem words_ne_nil (h : ¬ isBlank c = true) (cs : List Char) : words (c :: cs) ≠ [] := by
  rw [words.eq_def]
  simp only
  rw [if_neg h]
  split
  · exact List.cons_ne_nil _ _
  · split
    · exact List.cons_ne_nil _ _
    · split <;> exact List.cons_ne_nil _ _

/-- Words split at a blank. All that follows about blanks is this equation. -/
theorem words_append_cons (h : isBlank c = true) (before after : List Char) :
    words (before ++ c :: after) = words before ++ words after := by
  fun_induction words before with
  | case1 => rw [List.nil_append, List.nil_append, words_cons_blank h]
  | case2 d rest hd ih => rw [List.cons_append, words_cons_blank hd, ih]
  | case3 d hd => rw [List.singleton_append, words_cons_end hd h, words_cons_blank h]; rfl
  | case4 d hd e more he ih =>
      rw [List.cons_append, List.cons_append, words_cons_end hd he, ← List.cons_append, ih]
      rfl
  | case5 d hd e more he first others hwords ih =>
      rw [hwords] at ih ⊢
      exact words_cons_cons hd he ih
  | case6 d hd e more he hwords ih =>
      exact absurd hwords (words_ne_nil he more)

/-- A run without blanks is one word. -/
theorem words_eq_singleton (hne : word ≠ []) (h : ∀ c ∈ word, isBlank c = false) :
    words word = [word] := by
  induction word with
  | nil => exact absurd rfl hne
  | cons c rest ih =>
      have hc : ¬ isBlank c = true := by simp [h c List.mem_cons_self]
      cases rest with
      | nil => exact words_singleton hc
      | cons d more =>
          have hd : ¬ isBlank d = true := by simp [h d (by simp)]
          have hrest := ih (List.cons_ne_nil _ _) fun e he => h e (List.mem_cons_of_mem _ he)
          exact words_cons_cons hc hd hrest

/-- Blanks at the end make no words. -/
theorem words_append_of_blanks {blanks : List Char} (h : ∀ c ∈ blanks, isBlank c = true)
    (cs : List Char) : words (cs ++ blanks) = words cs := by
  induction blanks generalizing cs with
  | nil => rw [List.append_nil]
  | cons c rest ih =>
      have hrest := fun d hd => h d (List.mem_cons_of_mem c hd)
      rw [List.append_cons, ih hrest, words_append_cons (h c List.mem_cons_self)]
      exact List.append_nil _

/-- Blanks at the start make no words. -/
theorem words_blanks_append (h : ∀ c ∈ cs, isBlank c = true) (ds : List Char) :
    words (cs ++ ds) = words ds := by
  induction cs with
  | nil => rfl
  | cons c rest ih =>
      rw [List.cons_append, words_cons_blank (h c List.mem_cons_self),
        ih fun d hd => h d (List.mem_cons_of_mem _ hd)]

/-! ### Trimming -/

/-- What is cut off the end of a text are blanks. -/
theorem exists_trimStart (cs : List Char) :
    ∃ back, trimStart cs = trimChars cs ++ back ∧ ∀ c ∈ back, isBlank c = true := by
  refine ⟨((trimStart cs).reverse.takeWhile isBlank).reverse, ?_, fun c hc => ?_⟩
  · show trimStart cs = ((trimStart cs).reverse.dropWhile isBlank).reverse ++ _
    rw [← List.reverse_append, List.takeWhile_append_dropWhile, List.reverse_reverse]
  · exact List.all_eq_true.mp List.all_takeWhile c (List.mem_reverse.mp hc)

/-- What is taken off both ends of a text are blanks. -/
theorem exists_trimChars (cs : List Char) :
    ∃ front back, cs = front ++ trimChars cs ++ back
      ∧ (∀ c ∈ front, isBlank c = true) ∧ ∀ c ∈ back, isBlank c = true := by
  obtain ⟨back, hback, hblank⟩ := exists_trimStart cs
  refine ⟨cs.takeWhile isBlank, back, ?_, fun c hc => ?_, hblank⟩
  · rw [List.append_assoc, ← hback]
    exact List.takeWhile_append_dropWhile.symm
  · exact List.all_eq_true.mp List.all_takeWhile c hc

/-- The blanks around a text do not matter for its words. -/
theorem words_trimChars (cs : List Char) : words (trimChars cs) = words cs := by
  obtain ⟨front, back, hsplit, hfront, hback⟩ := exists_trimChars cs
  calc words (trimChars cs) = words (front ++ (trimChars cs ++ back)) := by
        rw [words_blanks_append hfront, words_append_of_blanks hback]
    _ = words cs := by rw [← List.append_assoc, ← hsplit]

/-- A text that does not begin with a blank keeps its beginning. -/
theorem trimStart_of_head (h : ∀ c ∈ cs.head?, isBlank c = false) : trimStart cs = cs := by
  cases cs with
  | nil => rfl
  | cons c rest => exact List.dropWhile_cons_of_neg (by simp [h c rfl])

/-- What is trimmed starts with no blank. -/
theorem head_trimStart (cs : List Char) : ∀ c ∈ (trimStart cs).head?, isBlank c = false := by
  intro c hc
  have hhead := List.head?_dropWhile_not isBlank cs
  rw [← trimStart, Option.mem_def.mp hc] at hhead
  exact hhead

/-- A trimmed text neither begins nor ends with a blank. -/
theorem ends_trimChars (cs : List Char) :
    (∀ c ∈ (trimChars cs).head?, isBlank c = false)
      ∧ ∀ c ∈ (trimChars cs).getLast?, isBlank c = false := by
  obtain ⟨back, hback, -⟩ := exists_trimStart cs
  constructor
  · intro c hc
    apply head_trimStart cs
    rw [hback, List.head?_append, Option.mem_def.mp hc]
    rfl
  · intro c hc
    rw [trimChars, List.getLast?_reverse] at hc
    exact head_trimStart _ c hc

/-- A text between blanks is what is left, if it neither begins nor ends with one. -/
theorem trimChars_append {front mid back : List Char} (hfront : ∀ c ∈ front, isBlank c = true)
    (hback : ∀ c ∈ back, isBlank c = true) (hfirst : ∀ c ∈ mid.head?, isBlank c = false)
    (hlast : ∀ c ∈ mid.getLast?, isBlank c = false) :
    trimChars (front ++ mid ++ back) = mid := by
  have hstart : trimStart (front ++ mid ++ back) = trimStart (mid ++ back) := by
    rw [List.append_assoc]
    exact List.dropWhile_append_of_pos hfront
  have hend : trimStart (back.reverse ++ mid.reverse) = trimStart mid.reverse :=
    List.dropWhile_append_of_pos fun c hc => hback c (List.mem_reverse.mp hc)
  rw [trimChars, hstart]
  cases mid with
  | nil =>
      have hnone : trimStart back = [] := by
        have hall : trimStart (back ++ []) = trimStart [] := List.dropWhile_append_of_pos hback
        rwa [List.append_nil] at hall
      rw [List.nil_append, hnone]
      rfl
  | cons c rest =>
      have hkept : trimStart (c :: rest ++ back) = c :: rest ++ back :=
        trimStart_of_head hfirst
      rw [hkept, List.reverse_append, hend, trimStart_of_head, List.reverse_reverse]
      rw [List.head?_reverse]
      exact hlast

/-- A character of the trimmed text is one of the text. -/
theorem mem_of_mem_trimChars (h : c ∈ trimChars cs) : c ∈ cs := by
  unfold trimChars trimStart at h
  have hinner := List.mem_reverse.mp ((List.dropWhile_sublist _).mem (List.mem_reverse.mp h))
  exact (List.dropWhile_sublist _).mem hinner

/-! ### Characters by their numbers -/

/-- What holds of the first characters is found by going through their numbers. -/
theorem of_number {P : Char → Prop} {bound : Nat} (h : ∀ n < bound, P (Char.ofNat n))
    (hc : c.toNat < bound) : P c := by
  rw [← Char.ofNat_toNat c]
  exact h _ hc

/-! ### Words in lower case -/

/-- The letters of which the words of a phrase are made. -/
def isPlain (c : Char) : Bool := 'a' ≤ c && c ≤ 'z'

/-- Plain characters are the small letters of ASCII. -/
theorem toNat_of_isPlain (h : isPlain c = true) : 97 ≤ c.toNat ∧ c.toNat < 123 := by
  simp only [isPlain, Bool.and_eq_true, decide_eq_true_eq] at h
  have hlow : ('a' : Char).toNat ≤ c.toNat := h.1
  have hhigh : c.toNat ≤ ('z' : Char).toNat := h.2
  have ha : ('a' : Char).toNat = 97 := rfl
  have hz : ('z' : Char).toNat = 122 := rfl
  omega

/-- None of them is a blank. -/
theorem isBlank_of_isPlain (h : isPlain c = true) : isBlank c = false :=
  of_number (P := fun c => isPlain c = true → isBlank c = false) (by decide +kernel)
    (toNat_of_isPlain h).2 h

/-- No run of characters with a lower case meets the lower-case letters. -/
theorem lowerChar_of_isPlain (h : isPlain c = true) : lowerChar c = [c] := by
  have hruns : ∀ n < 123, 97 ≤ n → caseRuns.find? (·.moves n) = none := by decide +kernel
  obtain ⟨hlow, hhigh⟩ := toNat_of_isPlain h
  rw [lowerChar, if_neg (by omega), hruns _ hhigh hlow]

/-- Characters that are their own lower case stay as they are. -/
theorem lower_eq_self (h : ∀ c ∈ cs, lowerChar c = [c]) : lower cs = cs := by
  unfold lower
  induction cs with
  | nil => rfl
  | cons c rest ih =>
      rw [List.flatMap_cons, h c List.mem_cons_self,
        ih fun d hd => h d (List.mem_cons_of_mem _ hd)]
      rfl

end Custody.Text
