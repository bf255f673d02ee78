import Custody.Phrase.WordList
import Custody.Proofs.Text.Blank

/-!
# `Custody.Proofs.Phrase.WordList`: the words and their indices

The word list has 2048 words (`length_wordList`), no word is there twice (`nodup_wordList`), and
every word is made of lower-case letters (`plain_of_mem_wordList`). So the word of an index gives
the index back (`indexOf?_wordAt`).

All this is read off the lines of the list by computation. The lines are string literals, which
are slow to compute with. `Spelled` therefore gives their characters once, and `Sorted` is
computed on those.
-/

set_option autoImplicit false

namespace Custody.Phrase

open Text (isPlain)

/-- The lines and their characters. -/
inductive Spelled : List String → List (List Char) → Prop where
  | nil : Spelled [] []
  | cons {lines : List String} {spelled : List (List Char)} (cs : List Char)
      (rest : Spelled lines spelled) : Spelled (String.ofList cs :: lines) (cs :: spelled)

/-- Every word comes before the next one. -/
def ascending : List (List Char) → Bool
  | a :: b :: rest => decide (a < b) && ascending (b :: rest)
  | _ => true

/-- The lines have 2048 words in order, all of lower-case letters. -/
def Sorted (spelled : List (List Char)) : Bool :=
  let words := spelled.flatMap Text.words
  words.length == 2048 && ascending words && words.all fun word => word.all isPlain

/-- The computation. -/
theorem spelled_wordLines : ∃ spelled, Spelled wordLines spelled ∧ Sorted spelled = true := by
  apply Exists.intro
  apply And.intro
  · unfold wordLines
    -- Each step turns one literal into its characters and leaves them as the witness.
    repeat apply Spelled.cons
    exact Spelled.nil
  · decide +kernel

/-- The words of the lines are those of their characters. -/
theorem Spelled.flatMap_words {lines : List String} {spelled : List (List Char)}
    (h : Spelled lines spelled) :
    (lines.flatMap fun line => (Text.words line.toList).map String.ofList)
      = (spelled.flatMap Text.words).map String.ofList := by
  induction h with
  | nil => rfl
  | cons cs rest ih =>
      rw [List.flatMap_cons, List.flatMap_cons, List.map_append, ih, String.toList_ofList]

/-- Words that each come before the next come before all that follow. -/
theorem pairwise_of_ascending {words : List (List Char)} (h : ascending words = true) :
    words.Pairwise (· < ·) := by
  induction words with
  | nil => exact .nil
  | cons a rest ih =>
      cases rest with
      | nil => exact List.pairwise_singleton _ _
      | cons b rest =>
          simp only [ascending, Bool.and_eq_true, decide_eq_true_eq] at h
          have hrest := ih h.2
          refine List.pairwise_cons.mpr ⟨?_, hrest⟩
          intro c hc
          cases List.mem_cons.mp hc with
          | inl heq =>
              rw [heq]
              exact h.1
          | inr hmem => exact List.lt_trans h.1 ((List.pairwise_cons.mp hrest).1 c hmem)

/-- The words of the list are spelled by ascending lists of lower-case letters. -/
theorem exists_words : ∃ words : List (List Char), wordList = words.map String.ofList
    ∧ words.length = 2048 ∧ words.Pairwise (· < ·) ∧ ∀ word ∈ words, ∀ c ∈ word, isPlain c := by
  obtain ⟨spelled, hspelled, hsorted⟩ := spelled_wordLines
  simp only [Sorted, Bool.and_eq_true, beq_iff_eq, List.all_eq_true] at hsorted
  obtain ⟨⟨hlength, hascending⟩, hplain⟩ := hsorted
  exact ⟨_, hspelled.flatMap_words, hlength, pairwise_of_ascending hascending, hplain⟩

/-- There are 2048 words in the list. -/
theorem length_wordList : wordList.length = 2048 := by
  obtain ⟨words, hwords, hlength, -, -⟩ := exists_words
  rw [hwords, List.length_map, hlength]

/-- The words of the list all differ. -/
theorem nodup_wordList : wordList.Nodup := by
  obtain ⟨words, hwords, -, hsorted, -⟩ := exists_words
  rw [hwords]
  refine List.pairwise_map.mpr (hsorted.imp ?_)
  intro a b hlt heq
  rw [String.ofList_inj.mp heq] at hlt
  exact List.lt_irrefl b hlt

/-- A word of the list is not empty and has lower-case letters only. -/
theorem plain_of_mem_wordList {word : String} (h : word ∈ wordList) :
    word.toList ≠ [] ∧ ∀ c ∈ word.toList, isPlain c := by
  constructor
  · obtain ⟨line, -, hword⟩ := List.mem_flatMap.mp h
    obtain ⟨cs, hcs, rfl⟩ := List.mem_map.mp hword
    rw [String.toList_ofList]
    exact (Text.words_nonblank _ cs hcs).1
  · obtain ⟨words, hwords, -, -, hplain⟩ := exists_words
    rw [hwords] at h
    obtain ⟨cs, hcs, rfl⟩ := List.mem_map.mp h
    rw [String.toList_ofList]
    exact hplain cs hcs

/-- At each of the places stands a word of the list. -/
theorem wordAt_mem {index : Nat} (h : index < 2048) : wordAt index ∈ wordList := by
  have hlt : index < wordList.length := by rwa [length_wordList]
  rw [wordAt, List.getD_eq_getElem?_getD, List.getElem?_eq_getElem hlt]
  exact List.getElem_mem hlt

/-- The index of a word that is there. -/
theorem indexOf?_wordAt {index : Nat} (h : index < 2048) :
    indexOf? (wordAt index) = some index := by
  have hlt : index < wordList.length := by rwa [length_wordList]
  have hword : wordAt index = wordList[index] := by
    rw [wordAt, List.getD_eq_getElem?_getD, List.getElem?_eq_getElem hlt]
    rfl
  rw [indexOf?, List.idxOf?_eq_some_iff, hword]
  -- It is the first place with that word, as no earlier one has the same.
  refine ⟨hlt, rfl, ?_⟩
  intro j hj heq
  exact List.pairwise_iff_getElem.mp nodup_wordList j index (by omega) hlt hj heq

/-- Only words of the list are found. -/
theorem mem_of_indexOf? {word : String} {index : Nat} (h : indexOf? word = some index) :
    word ∈ wordList := by
  obtain ⟨hlt, hword, -⟩ := List.idxOf?_eq_some_iff.mp h
  rw [← hword]
  exact List.getElem_mem hlt

end Custody.Phrase
