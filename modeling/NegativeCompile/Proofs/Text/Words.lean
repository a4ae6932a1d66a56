import Mathlib.Data.List.Basic
import NegativeCompile.Text.Blank

/-! # Words of a text

A text can be cut into words in just one way (`IsCutInto`): no blank is in a word, blanks may stand
around the words, and some stand between any two of them. The words that are read of a text are these
(`words_eq_iff`). -/

namespace NegativeCompile.Text

variable {text word gap rest : List Char} {pieces : List (List Char)} {c : Char}

/-! ## Cutting into words -/

/-- A word is not empty, and nothing in it is blank. -/
structure IsWord (word : List Char) : Prop where
  /-- There is something in it. -/
  filled : word ≠ []
  /-- No blank is in it. -/
  unblank : ∀ c ∈ word, isBlank c = false

/-- A text is cut into words. -/
inductive IsCutInto : List Char → List (List Char) → Prop where
  /-- There is no word in blanks. -/
  | blanks {gap : List Char} (blank : ∀ c ∈ gap, isBlank c = true) : IsCutInto gap []
  /-- A word stands after blanks, if any, and a blank stands after it unless the text ends there. -/
  | word {gap word rest : List Char} {others : List (List Char)}
      (blank : ∀ c ∈ gap, isBlank c = true) (isWord : IsWord word)
      (ends : ∀ c, rest.head? = some c → isBlank c = true) (cut : IsCutInto rest others) :
      IsCutInto (gap ++ word ++ rest) (word :: others)

/-- One more blank before a text changes nothing. -/
theorem IsCutInto.cons (blank : isBlank c = true) (cut : IsCutInto text pieces) :
    IsCutInto (c :: text) pieces := by
  cases cut with
  | blanks others => exact .blanks (List.forall_mem_cons.mpr ⟨blank, others⟩)
  | @word gap word rest _ others isWord ends cut =>
    exact @IsCutInto.word (c :: gap) word rest _ (List.forall_mem_cons.mpr ⟨blank, others⟩) isWord ends cut

/-! ## Reading words -/

/-- At the end of a text the current word is the last one, if anything stands in it. -/
theorem wordsFrom_nil (filled : ¬ word.isEmpty = true) : wordsFrom word [] = [word.reverse] := by
  rw [wordsFrom, if_neg filled]

/-- A blank ends the current word. -/
theorem wordsFrom_cons_of_blank (blank : isBlank c = true) (filled : ¬ word.isEmpty = true) :
    wordsFrom word (c :: text) = word.reverse :: words text := by
  rw [wordsFrom, if_pos blank, if_neg filled]
  rfl

/-- A blank before the first word is passed over. -/
theorem words_cons_of_blank (blank : isBlank c = true) : words (c :: text) = words text := by
  simp [words, wordsFrom, blank]

/-- Any other character belongs to the current word. -/
theorem wordsFrom_cons (unblank : isBlank c = false) :
    wordsFrom word (c :: text) = wordsFrom (c :: word) text := by
  rw [wordsFrom, if_neg (by simp [unblank])]

/-- A text is cut into the words that are read from a place on, `word` being the start of the first
one. -/
theorem isCutInto_wordsFrom (unblank : ∀ c ∈ word, isBlank c = false) :
    IsCutInto (word.reverse ++ text) (wordsFrom word text) := by
  -- The cases are those of the reading: the end of the text, a blank, and any other character.
  induction word, text using wordsFrom.induct with
  | case1 word empty =>
    rw [List.isEmpty_iff.mp empty]
    exact .blanks (by simp)
  | case2 word full =>
    have isWord : IsWord word.reverse :=
      ⟨by simpa using full, fun c member => unblank c (List.mem_reverse.mp member)⟩
    rw [wordsFrom_nil full]
    exact @IsCutInto.word [] word.reverse [] [] (by simp) isWord (by simp) (.blanks (by simp))
  | case3 word c rest blank empty ih =>
    have passed : wordsFrom [] (c :: rest) = wordsFrom [] rest := words_cons_of_blank blank
    rw [List.isEmpty_iff.mp empty, passed]
    exact (ih (by simp)).cons blank
  | case4 word c rest blank full ih =>
    -- The blank ends the word, and it stands before what is cut next.
    have isWord : IsWord word.reverse :=
      ⟨by simpa using full, fun c member => unblank c (List.mem_reverse.mp member)⟩
    have ends : ∀ d, (c :: rest).head? = some d → isBlank d = true := by
      intro d first
      rw [← Option.some.inj first]
      exact blank
    rw [wordsFrom_cons_of_blank blank full]
    exact @IsCutInto.word [] _ _ _ (by simp) isWord ends ((ih (by simp)).cons blank)
  | case5 word c rest inside ih =>
    have unblank' : isBlank c = false := by simpa using inside
    rw [wordsFrom_cons unblank']
    simpa using ih (List.forall_mem_cons.mpr ⟨unblank', unblank⟩)

/-- Blanks before a text hold no word. -/
theorem words_append_of_blank (blank : ∀ c ∈ gap, isBlank c = true) (text : List Char) :
    words (gap ++ text) = words text := by
  induction gap with
  | nil => rfl
  | cons c gap ih =>
    obtain ⟨first, others⟩ := List.forall_mem_cons.mp blank
    rw [List.cons_append, words_cons_of_blank first, ih others]

/-- Characters that are not blank go on the current word. -/
theorem wordsFrom_append (unblank : ∀ c ∈ gap, isBlank c = false) (word text : List Char) :
    wordsFrom word (gap ++ text) = wordsFrom (gap.reverse ++ word) text := by
  induction gap generalizing word with
  | nil => rfl
  | cons c gap ih =>
    obtain ⟨first, others⟩ := List.forall_mem_cons.mp unblank
    rw [List.cons_append, wordsFrom_cons first, ih others]
    simp

/-- A word at the start of a text is the first one that is read. -/
theorem words_append_of_isWord (isWord : IsWord word)
    (ends : ∀ c, rest.head? = some c → isBlank c = true) :
    words (word ++ rest) = word :: words rest := by
  have full : ¬ word.reverse.isEmpty = true := by simpa using isWord.filled
  rw [words, wordsFrom_append isWord.unblank, List.append_nil]
  cases rest with
  | nil =>
    rw [wordsFrom_nil full, List.reverse_reverse]
    rfl
  | cons c rest =>
    have blank : isBlank c = true := ends c rfl
    rw [wordsFrom_cons_of_blank blank full, words_cons_of_blank blank, List.reverse_reverse]

/-- The words that are read of a text are those that it is cut into. -/
theorem words_eq_iff : words text = pieces ↔ IsCutInto text pieces := by
  constructor
  · rintro rfl
    exact isCutInto_wordsFrom (List.forall_mem_nil _)
  · intro cut
    induction cut with
    | blanks blank =>
      have passed := words_append_of_blank blank []
      rwa [List.append_nil] at passed
    | word blank isWord ends _ ih =>
      rw [List.append_assoc, words_append_of_blank blank, words_append_of_isWord isWord ends, ih]

end NegativeCompile.Text
