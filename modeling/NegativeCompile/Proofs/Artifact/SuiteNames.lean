import NegativeCompile.Proofs.Artifact.Suites

/-! # Names of suites

Test programs know a suite by a name that is made of ASCII letters and digits and starts with a letter.
Whatever the key of a fragment is, the suite that is made of it has such a name: it holds the letters and
digits of the key, and a fixed ending after them (`Artifact.suiteName_isSuiteOf`). -/

namespace NegativeCompile.Artifact

open Text

variable {key name : String} {spelling : List Char} {c : Char}

/-! ## Spellings -/

/-- What is spelled has letters and digits only. -/
theorem isPlain_of_mem_spelledFrom {starts : Bool} {text : List Char}
    (member : c ∈ spelledFrom starts text) : isPlain c = true := by
  induction text generalizing starts with
  | nil => cases member
  | cons first rest ih =>
    rw [spelledFrom] at member
    split at member
    next plain =>
      rcases List.mem_cons.mp member with rfl | later
      · -- The first letter of a word may have been put in upper case.
        split
        · exact isPlain_toUpper plain
        · exact plain
      · exact ih later
    · exact ih member

/-- Letter case apart, a text spells its letters and digits in their order. -/
theorem map_toLower_spelledFrom (starts : Bool) (text : List Char) :
    (spelledFrom starts text).map Char.toLower = (text.filter isPlain).map Char.toLower := by
  -- Whether a word starts changes the case of a letter only, so the induction is for both answers.
  induction text generalizing starts with
  | nil => rfl
  | cons c rest ih =>
    by_cases plain : isPlain c = true
    · rw [spelledFrom, if_pos plain, List.filter_cons_of_pos plain, List.map_cons, List.map_cons, ih]
      cases starts <;> simp
    · rw [spelledFrom, if_neg plain, List.filter_cons_of_neg plain, ih]

/-- A name that is made of a spelling starts with a letter. -/
theorem exists_letter_legalName (plain : ∀ c ∈ spelling, isPlain c = true) :
    ∃ first rest, legalName spelling = first :: rest ∧ isAsciiLetter first = true := by
  unfold legalName
  cases spelling with
  | nil => exact ⟨'F', "ragment".toList, rfl, by decide⟩
  | cons first rest =>
    rw [if_neg (by simp), List.head?_cons, Option.any_some]
    by_cases digit : isAsciiDigit first = true
    · rw [if_pos digit]
      exact ⟨'N', 'c' :: first :: rest, rfl, by decide⟩
    · rw [if_neg digit]
      refine ⟨first, rest, rfl, ?_⟩
      simpa [isPlain, digit] using plain first List.mem_cons_self

/-- Before a spelling there is nothing, or what a digit needs, or what stands for nothing. -/
theorem exists_start_legalName (spelling : List Char) :
    ∃ start ∈ ["", "Nc", "Fragment"], legalName spelling = start.toList ++ spelling := by
  rcases legalName_outcome spelling with same | made
  · exact ⟨"", by simp, same⟩
  · generalize legalName spelling = named at made ⊢
    cases made with
    | nothing => exact ⟨"Fragment", by simp, by simp⟩
    | digit _ => exact ⟨"Nc", by simp, rfl⟩

/-! ## Suites -/

/-- A name is one of a suite, and it is made of a key. -/
structure IsSuiteOf (key name : String) : Prop where
  /-- There are ASCII letters and digits only. -/
  plain : ∀ c ∈ name.toList, isAsciiLetter c = true ∨ isAsciiDigit c = true
  /-- The first character is a letter. -/
  starts : ∃ first rest, name.toList = first :: rest ∧ isAsciiLetter first = true
  /-- There is something before the fixed ending. -/
  ends : ∃ first rest, name.toList = first :: rest ++ "NoCompileTest".toList
  /-- Letter case apart, the letters and digits of the key without the suffix stand before the ending. -/
  tells : ∃ start ∈ ["", "Nc", "Fragment"], name.toList.map Char.toLower =
    (start.toList ++ (stemOf key).toList.filter isPlain ++ "NoCompileTest".toList).map Char.toLower

/-- The suite of a key has such a name. -/
theorem isSuiteOf_ofKey (key : String) : IsSuiteOf key (suiteName.ofKey key) := by
  have plain : ∀ c ∈ spelled (stemOf key).toList, isPlain c = true :=
    fun _ member => isPlain_of_mem_spelledFrom member
  obtain ⟨first, rest, named, letter⟩ := exists_letter_legalName plain
  obtain ⟨start, known, before⟩ := exists_start_legalName (spelled (stemOf key).toList)
  refine ⟨fun c member => ?_, ⟨first, rest ++ "NoCompileTest".toList, ?_, letter⟩,
    ⟨first, rest, ?_⟩, ⟨start, known, ?_⟩⟩
  · simpa [isPlain] using isPlain_of_mem_ofKey member
  · rw [toList_ofKey, named, List.cons_append]
  · rw [toList_ofKey, named]
  · have letters := map_toLower_spelledFrom true (stemOf key).toList
    rw [toList_ofKey, before, List.map_append, List.map_append, List.map_append, List.map_append,
      spelled, letters]

/-- If no name is given, or an empty one, then the suite of any key has a name that is one of a suite and
is made of the key. -/
theorem suiteName_isSuiteOf (key : String) :
    IsSuiteOf key (suiteName key none) ∧ IsSuiteOf key (suiteName key (some "")) :=
  ⟨isSuiteOf_ofKey key, isSuiteOf_ofKey key⟩

/-- A name of digits gets a letter, and a name without letters and digits is replaced. -/
example : suiteName "2__x-y.nc" none = "Nc2XYNoCompileTest" ∧
    suiteName "_.é" none = "FragmentNoCompileTest" := by decide +kernel

end NegativeCompile.Artifact
