import NegativeCompile.Proofs.Artifact.Shaping
import NegativeCompile.Proofs.Text.Words

/-! # String literals are read back

The string literal of an error directive spells the message on one line (`Artifact.Spells`): between the
quotes there are visible characters only, and a quote or a backslash among them stands after a backslash
that makes it stand for itself. Dropping these gives the words of the message with single blanks between
them, each character that cannot be seen being a question mark; and nothing else is spelled so
(`Artifact.stringLiteral_spells`). -/

namespace NegativeCompile.Artifact

open Text

variable {body message more : List Char} {c : Char}

/-! ## Escaped texts -/

/-- A character has to be escaped: it is a quote or a backslash. -/
def IsMark (c : Char) : Prop := c = '"' ∨ c = '\\'

/-- Whether a character has to be escaped can be told. -/
instance (c : Char) : Decidable (IsMark c) := inferInstanceAs (Decidable (_ ∨ _))

/-- Each quote and each backslash of a text stands after a backslash that escapes it, or escapes one
itself. -/
inductive IsEscaped : List Char → Prop where
  /-- There is nothing to escape in an empty text. -/
  | nil : IsEscaped []
  /-- Other characters stand for themselves. -/
  | plain {c : Char} {rest : List Char} (unmarked : ¬ IsMark c) (others : IsEscaped rest) :
      IsEscaped (c :: rest)
  /-- A backslash escapes what comes next. -/
  | escape {c : Char} {rest : List Char} (marked : IsMark c) (others : IsEscaped rest) :
      IsEscaped ('\\' :: c :: rest)

/-- A text without its escapes: each backslash is dropped, and what comes next is kept as it is. -/
def withoutEscapes : List Char → List Char
  | [] => []
  | '\\' :: c :: rest => c :: withoutEscapes rest
  | c :: rest => c :: withoutEscapes rest

@[simp] theorem withoutEscapes_nil : withoutEscapes [] = [] := rfl

/-- What is escaped is kept. -/
@[simp] theorem withoutEscapes_escape (c : Char) (rest : List Char) :
    withoutEscapes ('\\' :: c :: rest) = c :: withoutEscapes rest := rfl

/-- What is no mark is kept. -/
theorem withoutEscapes_cons (unmarked : ¬ IsMark c) (rest : List Char) :
    withoutEscapes (c :: rest) = c :: withoutEscapes rest := by
  have unlike : c ≠ '\\' := fun same => unmarked (.inr same)
  cases rest with
  | nil => simp [withoutEscapes]
  | cons next rest => simp [withoutEscapes, unlike]

/-! ## Spelling -/

/-- A character as it is shown: a question mark stands for what cannot be seen. -/
def shown (c : Char) : Char := if IsVisible c then c else '?'

/-- The body of a string literal spells a message. -/
structure Spells (body message : List Char) : Prop where
  /-- All of it can be seen. -/
  visible : ∀ c ∈ body, IsVisible c
  /-- Quotes and backslashes are escaped, and no escape is left open. -/
  escaped : IsEscaped body
  /-- Without the escapes it is the message. -/
  read : withoutEscapes body = message

/-- A quote or a backslash is escaped. -/
theorem literalChar_of_isMark (marked : IsMark c) : literalChar c = ['\\', c] := by
  rcases marked with rfl | rfl <;> rfl

/-- Any other character is shown as it is, if it can be seen. -/
theorem literalChar_of_not_isMark (unmarked : ¬ IsMark c) : literalChar c = [shown c] := by
  obtain ⟨unquoted, unescaped⟩ := not_or.mp unmarked
  have plain : ¬ (c = '\\' || c = '"') = true := by simp [unquoted, unescaped]
  rw [literalChar, if_neg plain, shown]
  by_cases seen : IsVisible c
  · rw [if_pos seen, if_pos (by simpa [IsVisible] using seen)]
  · rw [if_neg seen, if_neg (by simpa [IsVisible] using seen)]

/-- A mark can be seen. -/
theorem IsMark.shown_eq (marked : IsMark c) : shown c = c := by
  rcases marked with rfl | rfl <;> decide

/-- What is shown for any other character is no mark. -/
theorem not_isMark_shown (unmarked : ¬ IsMark c) : ¬ IsMark (shown c) := by
  unfold shown
  split
  · exact unmarked
  · decide

/-- What stands for the characters of a text is escaped. -/
theorem isEscaped_flatMap_literalChar (text : List Char) : IsEscaped (text.flatMap literalChar) := by
  induction text with
  | nil => exact .nil
  | cons c rest ih =>
    rw [List.flatMap_cons]
    by_cases marked : IsMark c
    · rw [literalChar_of_isMark marked]
      exact .escape marked ih
    · -- A question mark may stand here, and it is no mark either.
      rw [literalChar_of_not_isMark marked]
      exact .plain (not_isMark_shown marked) ih

/-- Without the escapes there is what is shown for the characters. -/
theorem withoutEscapes_flatMap_literalChar (text : List Char) :
    withoutEscapes (text.flatMap literalChar) = text.map shown := by
  induction text with
  | nil => rfl
  | cons c rest ih =>
    rw [List.flatMap_cons, List.map_cons]
    by_cases marked : IsMark c
    · rw [literalChar_of_isMark marked, marked.shown_eq]
      simp [ih]
    · -- The character does not open an escape, whatever comes after it.
      rw [literalChar_of_not_isMark marked, List.singleton_append,
        withoutEscapes_cons (not_isMark_shown marked), ih]

/-- What stands for the characters of a text spells what is shown for them. -/
theorem spells_flatMap_literalChar (text : List Char) :
    Spells (text.flatMap literalChar) (text.map shown) where
  visible := by
    intro c member
    obtain ⟨d, -, within⟩ := List.mem_flatMap.mp member
    exact isVisible_of_mem_literalChar within
  escaped := isEscaped_flatMap_literalChar text
  read := withoutEscapes_flatMap_literalChar text

/-- An escaped text is what stands for the characters that are left without the escapes. -/
theorem IsEscaped.flatMap_literalChar (escaped : IsEscaped body)
    (visible : ∀ c ∈ body, IsVisible c) : (withoutEscapes body).flatMap literalChar = body := by
  -- The induction is on how the text is escaped, so that no backslash is read in two ways.
  induction escaped with
  | nil => rfl
  | @plain c rest unmarked _ ih =>
    obtain ⟨seen, others⟩ := List.forall_mem_cons.mp visible
    have kept : shown c = c := if_pos seen
    rw [withoutEscapes_cons unmarked, List.flatMap_cons, literalChar_of_not_isMark unmarked, kept,
      ih others]
    rfl
  | @escape c rest marked _ ih =>
    obtain ⟨-, escapes⟩ := List.forall_mem_cons.mp visible
    obtain ⟨-, others⟩ := List.forall_mem_cons.mp escapes
    rw [withoutEscapes_escape, List.flatMap_cons, literalChar_of_isMark marked, ih others]
    rfl

/-- A message is spelled in one way only. -/
theorem Spells.unique (spells : Spells body message) (also : Spells more message) : body = more := by
  rw [← spells.escaped.flatMap_literalChar spells.visible,
    ← also.escaped.flatMap_literalChar also.visible, spells.read, also.read]

/-! ## Literals -/

/-- The string literal of a text has a body between quotes that spells the words of the text, with single
blanks between them and with a question mark for each character that cannot be seen. No other body
spells this. -/
theorem stringLiteral_spells (text : String) :
    ∃ pieces body, IsCutInto text.toList pieces ∧
      (stringLiteral text).toList = '"' :: (body ++ ['"']) ∧
      Spells body (([' '].intercalate pieces).map shown) ∧
      ∀ other, Spells other (([' '].intercalate pieces).map shown) → other = body := by
  have spells := spells_flatMap_literalChar ([' '].intercalate (words text.toList))
  refine ⟨words text.toList, _, words_eq_iff.mp rfl, ?_, spells, fun other also => also.unique spells⟩
  rw [stringLiteral, String.toList_ofList, List.cons_append]

/-- Backslashes before a quote are told from those that escape. -/
example : stringLiteral "a\t\\\\\"  \u00e9b" = "\"a \\\\\\\\\\\" ?b\"" := by decide_cbv

end NegativeCompile.Artifact
