import Mathlib
import NegativeCompile.Artifact

/-! # Lines of generated tests

A generated test is read line by line. Each line of a text that is made of lines stands in one of
them (`linesOf_ofLines`), so a test has an error directive just if one was rendered, and a test
without one stands for a fragment that passed (`passed_of_isGreen`). -/

namespace NegativeCompile.Artifact

open Files Text

variable {header : String} {suite : Option String} {result : FragmentResult}

/-! ## Pieces -/

/-- What starts a list without a separator starts the first piece between separators. -/
theorem exists_splitOn_append {separator : Char} {start : List Char} (free : separator ∉ start)
    (rest : List Char) :
    ∃ piece others, (start ++ rest).splitOn separator = (start ++ piece) :: others := by
  -- Each character of the start is put before the first piece.
  induction start with
  | nil =>
    obtain ⟨piece, others, equal⟩ := List.exists_cons_of_ne_nil (List.splitOn_ne_nil separator rest)
    exact ⟨piece, others, equal⟩
  | cons c start ih =>
    obtain ⟨unequal, others_free⟩ := not_or.mp (mt List.mem_cons.mpr free)
    obtain ⟨piece, others, equal⟩ := ih others_free
    have differs : ¬ (c == separator) = true := by
      rw [beq_iff_eq]
      exact fun same => unequal same.symm
    refine ⟨piece, others, ?_⟩
    rw [List.cons_append, List.splitOn_cons_eq_if_modifyHead, if_neg differs, equal]
    rfl

/-! ## Lines -/

/-- The lines of a text. -/
def linesOf (text : String) : List (List Char) := text.toList.splitOn '\n'

/-- The lines of a text that is made of lines are the lines of these, and an empty one at the
end. -/
theorem linesOf_ofLines {lines : List String} (some_line : lines ≠ []) :
    linesOf (ofLines lines) = lines.flatMap linesOf ++ [[]] := by
  induction lines with
  | nil => exact absurd rfl some_line
  | cons line rest ih =>
    rw [linesOf, ofLines, String.toList_append]
    cases rest with
    | nil =>
      rw [String.intercalate_singleton, List.flatMap_singleton]
      exact List.splitOn_append_cons_self line.toList []
    | cons next rest =>
      rw [List.flatMap_cons, List.append_assoc, ← ih (List.cons_ne_nil _ _), linesOf, linesOf,
        ofLines, String.intercalate_cons_cons, String.toList_append, String.toList_append,
        String.toList_append, List.append_assoc, List.append_assoc]
      exact List.splitOn_append_cons_self line.toList _

/-- How long a text that is made of lines is. -/
theorem length_ofLines {lines : List String} (some_line : lines ≠ []) :
    (ofLines lines).length = (lines.map fun line => line.length + 1).sum := by
  induction lines with
  | nil => exact absurd rfl some_line
  | cons line rest ih =>
    rw [ofLines, String.length_append, List.map_cons, List.sum_cons]
    cases rest with
    | nil =>
      rw [String.intercalate_singleton]
      rfl
    | cons next rest =>
      rw [← ih (List.cons_ne_nil _ _), ofLines, String.intercalate_cons_cons, String.length_append,
        String.length_append, String.length_append, Nat.add_assoc]
      rfl

/-- A text that is made of lines does not stay the same if some of them are left out. -/
theorem eq_nil_of_ofLines_eq {start kept dropped all : List String} (some_line : start ≠ [])
    (split : (kept ++ dropped).Perm all) (same : ofLines (start ++ kept) = ofLines (start ++ all)) :
    dropped = [] := by
  have lengths := congrArg String.length same
  have sums := (split.map fun line => line.length + 1).sum_eq
  rw [length_ofLines (List.append_ne_nil_of_left_ne_nil some_line _),
    length_ofLines (List.append_ne_nil_of_left_ne_nil some_line _), List.map_append, List.sum_append,
    List.map_append, List.sum_append] at lengths
  rw [List.map_append, List.sum_append] at sums
  -- Each line that is left out would have made the text longer by one character at least.
  cases dropped with
  | nil => rfl
  | cons line rest =>
    rw [List.map_cons, List.sum_cons] at sums
    omega

/-! ## Error directives -/

/-- A line is an error directive if it starts with the word for one. -/
def IsErrorLine (line : List Char) : Prop := "#error".toList <+: line

/-- Whether a line is an error directive can be told. -/
instance (line : List Char) : Decidable (IsErrorLine line) :=
  inferInstanceAs (Decidable (_ <+: _))

/-- A text is green if none of its lines is an error directive. -/
def IsGreen (text : String) : Prop := ∀ line ∈ linesOf text, ¬ IsErrorLine line

/-- Whether a text is green can be told. -/
instance (text : String) : Decidable (IsGreen text) :=
  inferInstanceAs (Decidable (∀ line ∈ linesOf text, ¬ IsErrorLine line))

/-- A message is shown by an error directive. -/
theorem isErrorLine_errorLine (message : String) : IsErrorLine (errorLine message).toList := by
  refine ⟨' ' :: (stringLiteral message).toList, ?_⟩
  rw [errorLine, String.toList_append]
  rfl

/-- A text that is made of lines is not green if one of them is an error directive. -/
theorem not_isGreen_ofLines {lines : List String} {line : String} (member : line ∈ lines)
    (directive : IsErrorLine line.toList) : ¬ IsGreen (ofLines lines) := by
  intro green
  obtain ⟨rest, equal⟩ := directive
  have free : '\n' ∉ "#error".toList := by decide
  -- The word for a directive has no break in it, so it starts a line of the text.
  obtain ⟨piece, others, pieces⟩ := exists_splitOn_append free rest
  rw [equal] at pieces
  have first : "#error".toList ++ piece ∈ linesOf line := by
    rw [linesOf, pieces]
    exact List.mem_cons_self
  refine green _ ?_ (List.prefix_append _ piece)
  rw [linesOf_ofLines (List.ne_nil_of_mem member)]
  exact List.mem_append_left _ (List.mem_flatMap.mpr ⟨line, member, first⟩)

/-! ## Generated tests -/

/-- A failed case is shown by an error directive, whatever was shown before. -/
theorem exists_errorLine_of_failed (name : String) (shown : List Nat) {results : List CaseResult}
    (some_failed : results.any (·.failed) = true) :
    ∃ message, errorLine message ∈ failureLines name shown results := by
  induction results generalizing shown with
  | nil => cases some_failed
  | cons result rest ih =>
    rw [failureLines]
    cases failed : result.failed with
    | false =>
      rw [List.any_cons, failed, Bool.false_or] at some_failed
      exact ih shown some_failed
    | true =>
      simp only [Bool.not_true, Bool.false_eq_true, ↓reduceIte]
      split
      · exact ⟨_, List.mem_cons_self⟩
      · split <;> exact ⟨_, List.mem_cons_self⟩

/-- A fragment whose generated test is green passed. -/
theorem passed_of_isGreen (green : IsGreen (render result header suite)) : result.passed = true := by
  by_contra failed
  have directive : ∃ message, errorLine message ∈ renderLines result header suite := by
    rw [renderLines, if_neg failed]
    rw [FragmentResult.passed, Bool.and_eq_true, not_and_or] at failed
    cases problem : result.error with
    | some message =>
      refine ⟨s!"{result.name}: {message}", List.mem_append_left _ (List.mem_append_right _ ?_)⟩
      exact List.mem_cons_self
    | none =>
      have some_failed : result.cases.any (·.failed) = true := by simpa [problem] using failed
      obtain ⟨message, member⟩ := exists_errorLine_of_failed result.name [] some_failed
      exact ⟨message, List.mem_append_right _ member⟩
  obtain ⟨message, member⟩ := directive
  exact not_isGreen_ofLines member (isErrorLine_errorLine message) green

/-- The generated test of a fragment that passed has one line for each of its results. -/
theorem render_of_passed (passed : result.passed = true) : render result header suite =
    ofLines (bannerLines result ++ includeLines header ++
      result.cases.map (testLine (suiteName result.key suite))) := by
  rw [render, renderLines, if_pos passed]

end NegativeCompile.Artifact
