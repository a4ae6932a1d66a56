import Mathlib.Data.List.DropRight
import NegativeCompile.Dialect.Header
import NegativeCompile.Proofs.Text.Lines
import NegativeCompile.Proofs.Lists
import NegativeCompile.Proofs.Diagnostic.Rendered

/-! # Headers of fragments

The header of a fragment is the longest run of lines at its start that are blank or give a pattern
(`Header.block`). Reading gives one case for each line of it that gives a pattern, in the order of the
lines, and whatever comes after the header makes no difference. A header is detected just if some line of
it gives a pattern, that is, if reading gives a case or fails (`Header.readsBlock`). -/

namespace NegativeCompile

open Files Text

/-! ## Trimmed texts -/

namespace Text

variable {text inner before after : List Char}

/-- Blanks at the right end of a text are dropped. -/
theorem trimRight_append_of_blank (blank : isBlankLine after = true) (text : List Char) :
    trimRight (text ++ after) = trimRight text := by
  have reversed : ∀ c ∈ after.reverse, isBlank c = true := by simpa [isBlankLine] using blank
  rw [trimRight, trimRight, List.reverse_append, List.dropWhile_append_of_pos reversed]

/-- Blanks at the left end of a text are dropped. -/
theorem trimLeft_append_of_blank (blank : isBlankLine before = true) (text : List Char) :
    trimLeft (before ++ text) = trimLeft text :=
  List.dropWhile_append_of_pos (List.all_eq_true.mp blank)

/-- Trimming drops the blanks around a text that starts and ends in none. -/
theorem trim_append (trimmed : trim inner = inner) (blank : isBlankLine before = true)
    (blankAfter : isBlankLine after = true) : trim (before ++ inner ++ after) = inner := by
  have whole : trimLeft inner = inner := trimLeft_eq_self trimmed
  rw [trim, List.append_assoc, trimLeft_append_of_blank blank, trimLeft, List.dropWhile_append]
  split
  next empty =>
    -- All is blank, and so nothing is left.
    have nothing : inner = [] := by
      rw [← whole]
      simpa [trimLeft] using empty
    have passed : after.dropWhile isBlank = [] := by simpa [isBlankLine] using blankAfter
    rw [passed, nothing, trimRight_nil]
  next =>
    rw [← trimLeft, whole, trimRight_append_of_blank blankAfter, trimRight_eq_self trimmed]

/-- A text is what is left when it is trimmed at the left, with blanks before it. -/
theorem exists_of_trimLeft (text : List Char) :
    ∃ before, isBlankLine before = true ∧ text = before ++ trimLeft text :=
  ⟨text.takeWhile isBlank, List.all_eq_true.mpr fun _ member => List.mem_takeWhile_imp member,
    List.takeWhile_append_dropWhile.symm⟩

/-- A text is what is left when it is trimmed, with blanks around it. -/
theorem exists_of_trim (text : List Char) : ∃ before after, isBlankLine before = true ∧
    isBlankLine after = true ∧ text = before ++ trim text ++ after := by
  obtain ⟨before, blank, split⟩ := exists_of_trimLeft text
  refine ⟨before, (trimLeft text).rtakeWhile isBlank, blank, ?_, ?_⟩
  · exact List.all_eq_true.mpr fun c member => List.mem_rtakeWhile_imp member
  · rw [trim, trimRight_eq, List.append_assoc, List.rdropWhile_append_rtakeWhile]
    exact split

end Text

namespace Header

variable {line pattern : List Char} {lines rest : List (List Char)} {path : Path}
variable {number earlier : Nat} {cases : List TestCase}

/-! ## Lines that give patterns -/

/-- A line gives a pattern: there are two slashes, the word of headers and the pattern, with any blanks
before, between and after them. -/
structure Gives (line pattern : List Char) : Prop where
  /-- The pattern starts and ends in no blank. -/
  trimmed : trim pattern = pattern
  /-- The line is put together of these parts. -/
  exists_blanks : ∃ before between start ending, isBlankLine before = true ∧
    isBlankLine between = true ∧ isBlankLine start = true ∧ isBlankLine ending = true ∧
      line = before ++ "//".toList ++ between ++ "NOCOMPILE:".toList ++ (start ++ pattern ++ ending)

/-- A line gives the pattern that it is read for. -/
theorem gives_of_pattern? (read : pattern? line = some pattern) : Gives line pattern := by
  unfold pattern? at read
  split at read
  next rest slashes =>
    dsimp only at read
    split at read
    next starts =>
      obtain ⟨tail, word⟩ := startsWith_iff.mp starts
      rw [← word, List.drop_left] at read
      obtain rfl := Option.some.inj read
      -- The parts are put together from the right: the pattern, the word and the slashes.
      obtain ⟨start, ending, blankStart, blankEnding, parts⟩ := exists_of_trim tail
      obtain ⟨between, blankBetween, inner⟩ := exists_of_trimLeft rest
      obtain ⟨before, blank, outer⟩ := exists_of_trimLeft line
      refine ⟨trim_trim tail, before, between, start, ending, blank, blankBetween, blankStart,
        blankEnding, ?_⟩
      rw [← parts, outer, slashes, inner, ← word]
      simp
    · cases read
  · cases read

/-- A line is read for the pattern that it gives. -/
theorem Gives.pattern?_eq (gives : Gives line pattern) : pattern? line = some pattern := by
  obtain ⟨trimmed, before, between, start, ending, blank, blankBetween, blankStart, blankEnding, rfl⟩ :=
    gives
  have slashes : trimLeft (before ++ "//".toList ++ between ++ "NOCOMPILE:".toList ++
      (start ++ pattern ++ ending)) =
        '/' :: '/' :: (between ++ ("NOCOMPILE:".toList ++ (start ++ pattern ++ ending))) := by
    rw [List.append_assoc, List.append_assoc, List.append_assoc, trimLeft_append_of_blank blank]
    exact List.dropWhile_cons_of_neg (by decide)
  have word : trimLeft (between ++ ("NOCOMPILE:".toList ++ (start ++ pattern ++ ending))) =
      "NOCOMPILE:".toList ++ (start ++ pattern ++ ending) := by
    rw [trimLeft_append_of_blank blankBetween]
    exact List.dropWhile_cons_of_neg (by decide)
  simp only [pattern?, slashes, word]
  rw [if_pos (startsWith_iff.mpr (List.prefix_append _ _)), List.drop_left,
    trim_append trimmed blankStart blankEnding]

/-- What a line is read for is the pattern that it gives. -/
theorem pattern?_eq_some_iff : pattern? line = some pattern ↔ Gives line pattern :=
  ⟨gives_of_pattern?, Gives.pattern?_eq⟩

/-- A line gives one pattern. -/
theorem Gives.unique {other : List Char} (gives : Gives line pattern) (again : Gives line other) :
    pattern = other :=
  Option.some.inj (gives.pattern?_eq.symm.trans again.pattern?_eq)

/-- A line gives some pattern. -/
def IsHeader (line : List Char) : Prop := ∃ pattern, Gives line pattern

/-- A line gives a pattern just if it is read for one. -/
theorem isSome_pattern?_iff : (pattern? line).isSome = true ↔ IsHeader line := by
  rw [Option.isSome_iff_exists]
  exact exists_congr fun _ => pattern?_eq_some_iff

instance : DecidablePred IsHeader := fun _ => decidable_of_iff _ isSome_pattern?_iff

/-- A line that gives no pattern is read for none. -/
theorem pattern?_eq_none_iff : pattern? line = none ↔ ¬ IsHeader line := by
  rw [← isSome_pattern?_iff, Bool.not_eq_true, Option.isSome_eq_false_iff, Option.isNone_iff_eq_none]

/-- A blank line gives no pattern. -/
theorem not_isHeader_of_blank (blank : isBlankLine line = true) : ¬ IsHeader line := by
  have nothing : trimLeft line = [] := List.dropWhile_eq_nil_iff.mpr (List.all_eq_true.mp blank)
  rw [← pattern?_eq_none_iff, pattern?, nothing]

/-! ## The block of a header -/

/-- The header of some lines: the longest run at their start that is blank or gives patterns. -/
def block (lines : List (List Char)) : List (List Char) :=
  lines.takeWhile fun line => isBlankLine line = true ∨ IsHeader line

/-- The lines of a header that give patterns, each with its number; the first line has the number
`number`. -/
def headed (number : Nat) (lines : List (List Char)) : List (List Char × Nat) :=
  ((block lines).zipIdx number).filter fun entry => IsHeader entry.1

/-- A blank line goes on with a header. -/
theorem block_cons_of_blank (blank : isBlankLine line = true) (rest : List (List Char)) :
    block (line :: rest) = line :: block rest :=
  List.takeWhile_cons_of_pos (by simp [blank])

/-- A line that gives a pattern goes on with a header. -/
theorem block_cons_of_isHeader (gives : IsHeader line) (rest : List (List Char)) :
    block (line :: rest) = line :: block rest :=
  List.takeWhile_cons_of_pos (by simp [gives])

/-- Any other line ends a header. -/
theorem block_cons_of_other (filled : ¬ isBlankLine line = true) (other : ¬ IsHeader line)
    (rest : List (List Char)) : block (line :: rest) = [] :=
  List.takeWhile_cons_of_neg (by simp [filled, other])

/-- Without lines no line of a header gives a pattern. -/
@[simp] theorem headed_nil (number : Nat) : headed number [] = [] := rfl

/-- A blank line of a header is passed over. -/
theorem headed_cons_of_blank (blank : isBlankLine line = true) (number : Nat)
    (rest : List (List Char)) : headed number (line :: rest) = headed (number + 1) rest := by
  simp [headed, block_cons_of_blank blank, not_isHeader_of_blank blank]

/-- A line that gives a pattern is kept with its number. -/
theorem headed_cons_of_isHeader (gives : IsHeader line) (number : Nat) (rest : List (List Char)) :
    headed number (line :: rest) = (line, number) :: headed (number + 1) rest := by
  simp [headed, block_cons_of_isHeader gives, gives]

/-- No line of a header gives a pattern if the first line ends it. -/
theorem headed_cons_of_other (filled : ¬ isBlankLine line = true) (other : ¬ IsHeader line)
    (number : Nat) (rest : List (List Char)) : headed number (line :: rest) = [] := by
  simp [headed, block_cons_of_other filled other]

/-- The numbers of the lines of a header ascend. -/
theorem pairwise_headed (number : Nat) (lines : List (List Char)) :
    (headed number lines).Pairwise fun first second => first.2 < second.2 := by
  have numbers : (((block lines).zipIdx number).map Prod.snd).Pairwise (· < ·) := by
    rw [List.zipIdx_map_snd]
    exact List.pairwise_lt_range'
  exact (List.pairwise_map.mp numbers).filter _

/-! ## Reading a header -/

/-- A case is that of a line with a number: the one expectation of it is an error that the pattern of
the line matches, `index` counts the cases up to this one. -/
structure IsCaseOf (line : List Char) (number index : Nat) (testCase : TestCase) : Prop where
  /-- The case is named by its count. -/
  name : testCase.name = s!"expect_{index}"
  /-- It covers the line. -/
  span : testCase.span = ⟨number, number⟩
  /-- It expects an error that matches the pattern of the line, which can be read. -/
  expects : ∃ pattern compiled, Gives line pattern ∧ Regex.read pattern = .ok compiled ∧
    testCase.expectations = [⟨testCase.name, String.ofList pattern, true, none, .error⟩]
  /-- It is compiled. -/
  enabled : testCase.enabled = true
  /-- No guard stands around it. -/
  unguarded : testCase.guard = none

/-- The case of a line is the one that is made of its pattern. -/
theorem isCaseOf_iff {testCase : TestCase} : IsCaseOf line number (earlier + 1) testCase ↔
    ∃ pattern compiled, Gives line pattern ∧ Regex.read pattern = .ok compiled ∧
      testCase = caseOf number earlier pattern := by
  constructor
  · rintro ⟨name, span, ⟨pattern, compiled, gives, reads, expects⟩, enabled, unguarded⟩
    refine ⟨pattern, compiled, gives, reads, ?_⟩
    cases testCase
    simp_all [caseOf]
  · rintro ⟨pattern, compiled, gives, reads, rfl⟩
    exact ⟨rfl, rfl, ⟨pattern, compiled, gives, reads, rfl⟩, rfl, rfl⟩

/-- Cases are those of lines with numbers, counted on from `earlier` ones. -/
def AreCasesOf (entries : List (List Char × Nat)) (earlier : Nat) (cases : List TestCase) : Prop :=
  List.Forall₂ (fun entry testCase => IsCaseOf entry.1.1 entry.1.2 entry.2 testCase)
    (entries.zipIdx (earlier + 1)) cases

/-- A blank line is passed over. -/
theorem readLines_cons_of_blank (blank : isBlankLine line = true) (path : Path)
    (number earlier : Nat) (rest : List (List Char)) :
    readLines path number earlier (line :: rest) = readLines path (number + 1) earlier rest := by
  rw [readLines, pattern?_eq_none_iff.mpr (not_isHeader_of_blank blank)]
  exact if_pos blank

/-- Reading stops at a line that is not blank and gives no pattern. -/
theorem readLines_cons_of_other (filled : ¬ isBlankLine line = true) (other : ¬ IsHeader line)
    (path : Path) (number earlier : Nat) (rest : List (List Char)) :
    readLines path number earlier (line :: rest) = .ok [] := by
  rw [readLines, pattern?_eq_none_iff.mpr other]
  exact if_neg filled

/-- Reading lines from one that gives a pattern gives its case and the cases of the lines after it. -/
theorem readLines_cons_eq_ok_iff (gives : Gives line pattern) :
    readLines path number earlier (line :: rest) = .ok cases ↔
      ∃ compiled others, Regex.read pattern = .ok compiled ∧
        readLines path (number + 1) (earlier + 1) rest = .ok others ∧
          cases = caseOf number earlier pattern :: others := by
  rw [readLines, gives.pattern?_eq]
  dsimp only
  split
  next compiled reads =>
    rw [Except.bind_eq_ok_iff]
    constructor
    · rintro ⟨others, later, equal⟩
      exact ⟨compiled, others, reads, later, (Except.ok.inj equal).symm⟩
    · rintro ⟨_, others, -, later, rfl⟩
      exact ⟨others, later, rfl⟩
  next problem fails =>
    -- A pattern that cannot be read is refused, whichever its problem is.
    split <;> simp [fails]

/-- Reading lines gives the cases of the lines of their header, and no others. -/
theorem readLines_eq_ok_iff : readLines path number earlier lines = .ok cases ↔
    AreCasesOf (headed number lines) earlier cases := by
  -- Every line moves the number on, and only a line that gives a pattern moves the count on.
  induction lines generalizing number earlier cases with
  | nil => simp [readLines, AreCasesOf, eq_comm]
  | cons line rest ih =>
    by_cases gives : IsHeader line
    · obtain ⟨pattern, given⟩ := gives
      rw [readLines_cons_eq_ok_iff given, headed_cons_of_isHeader ⟨pattern, given⟩, AreCasesOf,
        List.zipIdx_cons, List.forall₂_cons_left_iff]
      constructor
      · rintro ⟨compiled, others, reads, later, rfl⟩
        exact ⟨_, others, isCaseOf_iff.mpr ⟨pattern, compiled, given, reads, rfl⟩, ih.mp later, rfl⟩
      · rintro ⟨testCase, others, one, later, rfl⟩
        obtain ⟨other, compiled, again, reads, rfl⟩ := isCaseOf_iff.mp one
        obtain rfl := given.unique again
        exact ⟨compiled, others, reads, ih.mpr later, rfl⟩
    · by_cases blank : isBlankLine line = true
      · rw [readLines_cons_of_blank blank, headed_cons_of_blank blank, ih]
      · simp [readLines_cons_of_other blank gives, headed_cons_of_other blank gives, AreCasesOf,
          eq_comm]

/-- What comes after a header makes no difference to what is read. -/
theorem readLines_block (path : Path) (number earlier : Nat) (lines : List (List Char)) :
    readLines path number earlier (block lines) = readLines path number earlier lines := by
  induction lines generalizing number earlier with
  | nil => rfl
  | cons line rest ih =>
    by_cases gives : IsHeader line
    · rw [block_cons_of_isHeader gives, readLines, readLines]
      simp only [ih]
    · by_cases blank : isBlankLine line = true
      · rw [block_cons_of_blank blank, readLines_cons_of_blank blank, readLines_cons_of_blank blank,
          ih]
      · rw [block_cons_of_other blank gives, readLines_cons_of_other blank gives, readLines]

/-- Lines are those of a header if the first one that is not blank gives a pattern. -/
theorem headed_ne_nil_iff (number : Nat) : headed number lines ≠ [] ↔
    ∃ line, lines.find? (!isBlankLine ·) = some line ∧ IsHeader line := by
  induction lines generalizing number with
  | nil => simp
  | cons line rest ih =>
    by_cases blank : isBlankLine line = true
    · rw [headed_cons_of_blank blank, ih, List.find?_cons_of_neg (by simp [blank])]
    · rw [List.find?_cons_of_pos (by simp [blank])]
      by_cases gives : IsHeader line
      · simp [headed_cons_of_isHeader gives, gives]
      · simp [headed_cons_of_other blank gives, gives]

/-! ## Cases of a header -/

namespace AreCasesOf

variable {entries : List (List Char × Nat)}

/-- There are as many cases as lines. -/
theorem length_eq (are : AreCasesOf entries earlier cases) : cases.length = entries.length := by
  rw [← List.Forall₂.length_eq are, List.length_zipIdx]

/-- The cases are named by their counts, without gaps. -/
theorem map_name (are : AreCasesOf entries earlier cases) : cases.map (·.name) =
    (List.range' (earlier + 1) cases.length).map fun index => s!"expect_{index}" := by
  have named : (entries.zipIdx (earlier + 1)).map (fun entry => s!"expect_{entry.2}") =
      cases.map (·.name) :=
    List.Forall₂.map_eq_map (are.imp fun _ _ one => one.name.symm)
  rw [← named, are.length_eq, ← List.zipIdx_map_snd, List.map_map]
  rfl

/-- Each case covers its line. -/
theorem map_span (are : AreCasesOf entries earlier cases) :
    cases.map (·.span) = entries.map fun entry => ⟨entry.2, entry.2⟩ := by
  have spanned : (entries.zipIdx (earlier + 1)).map (fun entry => ⟨entry.1.2, entry.1.2⟩) =
      cases.map (·.span) :=
    List.Forall₂.map_eq_map (are.imp fun _ _ one => one.span.symm)
  rw [← spanned]
  conv_rhs => rw [← List.zipIdx_map_fst (earlier + 1) entries, List.map_map]
  rfl

end AreCasesOf

/-- A text at a path is read for its header. -/
structure ReadsBlock (path : Path) (text : String) : Prop where
  /-- The text is detected just if its first line that is not blank gives a pattern. -/
  detects_iff : detects text = true ↔
    ∃ line, (Text.lines text.toList).find? (!isBlankLine ·) = some line ∧ IsHeader line
  /-- Reading gives the cases of the lines of the header that give patterns, in their order. -/
  parse_iff : ∀ cases, parse path text = .ok cases ↔
    AreCasesOf (headed 1 (Text.lines text.toList)) 0 cases
  /-- The cases are named by their counts, without gaps. -/
  names : ∀ cases, parse path text = .ok cases → cases.map (·.name) =
    (List.range' 1 cases.length).map fun index => s!"expect_{index}"
  /-- Each case covers one line of the text, the lines being counted from 1. -/
  spans : ∀ cases, parse path text = .ok cases →
    cases.map (·.span) = (headed 1 (Text.lines text.toList)).map fun entry => ⟨entry.2, entry.2⟩
  /-- These lines ascend. -/
  ascending : ∀ cases, parse path text = .ok cases →
    cases.Pairwise fun first second => first.span.first < second.span.first
  /-- The text is detected just if reading fails or gives a case. -/
  detects_iff_parse : detects text = true ↔
    (∃ failure, parse path text = .error failure) ∨
      ∃ cases, parse path text = .ok cases ∧ cases ≠ []
  /-- What comes after the header makes no difference. -/
  header_only : ∀ other : String, block (Text.lines other.toList) = block (Text.lines text.toList) →
    parse path other = parse path text ∧ detects other = detects text

/-- A text is detected just if its first line that is not blank gives a pattern. -/
theorem detects_eq_true_iff {text : String} : detects text = true ↔
    ∃ line, (Text.lines text.toList).find? (!isBlankLine ·) = some line ∧ IsHeader line := by
  rw [detects]
  split
  next line found => simp [found, isSome_pattern?_iff]
  next missing => simp [missing]

/-- A text is detected just if some line of its header gives a pattern. -/
theorem detects_iff_headed {text : String} :
    detects text = true ↔ headed 1 (Text.lines text.toList) ≠ [] :=
  detects_eq_true_iff.trans (headed_ne_nil_iff 1).symm

/-- The header of a text is read, and nothing but the header: what is detected, which cases are read,
and the order, names and lines of the cases follow from the lines of the header. -/
theorem readsBlock (path : Path) (text : String) : ReadsBlock path text where
  detects_iff := detects_eq_true_iff
  parse_iff := fun _ => readLines_eq_ok_iff
  names := fun _ read => (readLines_eq_ok_iff.mp read).map_name
  spans := fun _ read => (readLines_eq_ok_iff.mp read).map_span
  ascending := fun cases read => by
    have first : cases.map (·.span.first) = (headed 1 (Text.lines text.toList)).map fun entry =>
        (entry.2 : Int) := by
      simpa [Function.comp_def] using
        congrArg (List.map Span.first) (readLines_eq_ok_iff.mp read).map_span
    have numbers : (cases.map (·.span.first)).Pairwise (· < ·) := by
      rw [first, List.pairwise_map]
      exact (pairwise_headed 1 _).imp Int.ofNat_lt.mpr
    exact List.pairwise_map.mp numbers
  detects_iff_parse := by
    rw [detects_iff_headed]
    cases read : parse path text with
    | error failure =>
      -- Without a line that gives a pattern, reading would give no cases and not fail.
      have some : headed 1 (Text.lines text.toList) ≠ [] := fun none => by
        have empty : parse path text = .ok [] :=
          readLines_eq_ok_iff.mpr (none ▸ List.Forall₂.nil)
        rw [read] at empty
        cases empty
      simpa using some
    | ok cases =>
      have counted := (readLines_eq_ok_iff.mp read).length_eq
      simp [← List.length_pos_iff, counted]
  header_only := fun other same => by
    constructor
    · rw [parse, parse, ← readLines_block, same, readLines_block]
    · rw [Bool.eq_iff_iff, detects_iff_headed, detects_iff_headed, headed, headed, same]

/-- The third pattern stands after a line that ends the header. -/
example : headed 1 (Text.lines
    "\n // NOCOMPILE: one\n\t\n//NOCOMPILE:two \nint x;\n// NOCOMPILE: three".toList) =
      [(" // NOCOMPILE: one".toList, 2), ("//NOCOMPILE:two ".toList, 4)] := by decide +kernel

end Header

end NegativeCompile
