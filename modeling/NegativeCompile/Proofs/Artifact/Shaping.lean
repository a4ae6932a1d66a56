import NegativeCompile.Proofs.Diagnostic.Rendered
import NegativeCompile.Proofs.Artifact.Rendering

/-! # The shape of generated tests

Whatever a compiler printed, and whatever errors and reasons say, a generated test has one of two
shapes (`shape_of_render`). For a fragment that passed it has one test for each case and no error
directive. Otherwise it has error directives, each output once in a comment after the first failed
case that has it, and nothing else but comments and empty lines.

It does not matter which characters a reader takes for line breaks (`LineReading`): no line of the
test holds any, as foreign text only gets into string literals, which are plain ASCII, and into
comments, whose lines were cut from it. -/

namespace NegativeCompile.Artifact

open Files Text

variable {header : String} {suite : Option String} {result : FragmentResult}

/-! ## Readings -/

/-- A way to cut a text into lines that gives back the lines that a text was made of. -/
structure LineReading where
  /-- The characters that end a line. -/
  breaks : Char → Bool
  /-- The lines of a text. -/
  read : String → List (List Char)
  /-- Only line breaks end a line. -/
  isLineBreak_of_breaks : ∀ c, breaks c = true → isLineBreak c = true
  /-- The lines of a text that is made of lines without breaks are these. -/
  read_ofLines : ∀ lines : List String, lines ≠ [] →
    (∀ line ∈ lines, ∀ c ∈ line.toList, breaks c = false) →
      read (ofLines lines) = lines.map String.toList

/-- A line feed ends a line, and nothing else does. -/
def LineReading.feeds : LineReading where
  breaks c := c = '\n'
  read text := (linesOf text).dropLast
  isLineBreak_of_breaks c feed := by
    rw [decide_eq_true_eq] at feed
    rw [feed]
    decide
  read_ofLines lines some_line unbroken := by
    -- Between line feeds a line without one is a single piece.
    have whole : ∀ line ∈ lines, linesOf line = [line.toList] := by
      intro line member
      refine List.splitOn_eq_singleton fun feed => ?_
      simpa using unbroken line member '\n' feed
    rw [linesOf_ofLines some_line, List.dropLast_concat, List.flatMap_congr whole,
      ← List.map_eq_flatMap]

/-- Any line break ends a line. -/
def LineReading.allBreaks : LineReading where
  breaks := isLineBreak
  read text := Text.lines text.toList
  isLineBreak_of_breaks _ breaks := breaks
  read_ofLines lines some_line unbroken := by
    induction lines with
    | nil => exact absurd rfl some_line
    | cons line rest ih =>
      have first : ∀ c ∈ line.toList, isLineBreak c = false := unbroken line List.mem_cons_self
      rw [ofLines, String.toList_append]
      cases rest with
      | nil =>
        rw [String.intercalate_singleton]
        exact lines_append_feed first []
      | cons next rest =>
        have onward := ih (List.cons_ne_nil _ _)
          fun other member => unbroken other (List.mem_cons_of_mem _ member)
        rw [ofLines, String.toList_append] at onward
        rw [String.intercalate_cons_cons, String.toList_append, String.toList_append,
          List.append_assoc, List.append_assoc, List.map_cons, ← onward]
        exact lines_append_feed first _

section

variable (reading : LineReading)

/-- A text that is read as it is within a line. -/
def LineReading.Keeps (text : String) : Prop := ∀ c ∈ text.toList, reading.breaks c = false

/-- What holds no line break is kept. -/
theorem LineReading.keeps_of_isLineBreak {text : String}
    (unbroken : ∀ c ∈ text.toList, isLineBreak c = false) : reading.Keeps text := by
  intro c member
  by_contra broken
  have breaks := reading.isLineBreak_of_breaks c (by simpa using broken)
  rw [unbroken c member] at breaks
  cases breaks

/-- A text is kept if a look at its characters shows no line break. -/
theorem LineReading.keeps_of_all {text : String}
    (unbroken : (text.toList.all fun c => !isLineBreak c) = true) : reading.Keeps text :=
  reading.keeps_of_isLineBreak fun c member => by
    simpa using List.all_eq_true.mp unbroken c member

/-- Two texts are kept together just if each is. -/
@[simp] theorem LineReading.keeps_append {text more : String} :
    reading.Keeps (text ++ more) ↔ reading.Keeps text ∧ reading.Keeps more := by
  simp only [Keeps, String.toList_append, List.mem_append, or_imp, forall_and]

end

/-! ## Foreign text -/

/-- A character that can be seen, or a blank, of ASCII. -/
def IsVisible (c : Char) : Prop := 32 ≤ c.toNat ∧ c.toNat < 127

/-- Whether a character is visible can be told. -/
instance (c : Char) : Decidable (IsVisible c) := inferInstanceAs (Decidable (_ ∧ _))

/-- A visible character does not end a line. -/
theorem IsVisible.isLineBreak {c : Char} (visible : IsVisible c) : isLineBreak c = false := by
  obtain ⟨low, high⟩ := visible
  simp only [Text.isLineBreak, Bool.or_eq_false_iff, Bool.and_eq_false_iff, decide_eq_false_iff_not,
    beq_eq_false_iff_ne]
  omega

/-- What stands for a character in a string literal is visible. -/
theorem isVisible_of_mem_literalChar {c d : Char} (member : d ∈ literalChar c) : IsVisible d := by
  rw [literalChar] at member
  split at member
  next escaped =>
    rw [Bool.or_eq_true, decide_eq_true_eq, decide_eq_true_eq] at escaped
    rcases List.mem_pair.mp member with rfl | rfl
    · decide
    · rcases escaped with rfl | rfl <;> decide
  next =>
    split at member
    next inside =>
      rw [List.mem_singleton.mp member]
      simpa [IsVisible] using inside
    next =>
      rw [List.mem_singleton.mp member]
      decide

/-- A string literal is visible, whatever text it holds. -/
theorem isVisible_of_mem_stringLiteral {text : String} {c : Char}
    (member : c ∈ (stringLiteral text).toList) : IsVisible c := by
  rw [stringLiteral, String.toList_ofList, List.mem_append, List.mem_cons, List.mem_flatMap,
    List.mem_singleton] at member
  rcases member with (rfl | ⟨d, -, member⟩) | rfl
  · decide
  · exact isVisible_of_mem_literalChar member
  · decide

/-- A directive is kept, whatever its message is. -/
theorem LineReading.keeps_errorLine (reading : LineReading) (message : String) :
    reading.Keeps (errorLine message) := by
  rw [errorLine, keeps_append]
  exact ⟨reading.keeps_of_all (by decide),
    reading.keeps_of_isLineBreak fun _ member => (isVisible_of_mem_stringLiteral member).isLineBreak⟩

/-- The plain characters are the letters and digits of ASCII. -/
theorem isPlain_eq (c : Char) : isPlain c = c.isAlphanum := by
  rw [Bool.eq_iff_iff]
  simp only [isPlain, isAsciiLetter, isAsciiDigit, Char.isAlphanum, Char.isAlpha, Char.isUpper,
    Char.isLower, Char.isDigit, Bool.or_eq_true, Bool.and_eq_true, decide_eq_true_eq, ge_iff_le,
    UInt32.le_iff_toNat_le]
  rfl

/-- A letter or digit stays one in upper case. -/
theorem isPlain_toUpper {c : Char} (plain : isPlain c = true) : isPlain c.toUpper = true := by
  rw [isPlain_eq, Char.isAlphanum, Bool.or_eq_true] at plain ⊢
  rcases plain with letter | digit
  · rw [Char.isAlpha_toUpper_eq_isAlpha]
    exact .inl letter
  · have unlike : ¬ c.isLower = true := by
      simp only [Char.isDigit, Char.isLower, Bool.and_eq_true, decide_eq_true_eq, ge_iff_le,
        UInt32.le_iff_toNat_le] at digit ⊢
      exact fun lower => absurd (lower.1.trans digit.2) (by decide)
    rw [Char.toUpper_eq_of_not_isLower unlike]
    exact .inr digit

/-- A plain character is visible. -/
theorem isVisible_of_isPlain {c : Char} (plain : isPlain c = true) : IsVisible c := by
  simp only [isPlain, isAsciiLetter, isAsciiDigit, Bool.or_eq_true, Bool.and_eq_true,
    decide_eq_true_eq] at plain
  rw [IsVisible]
  omega

/-- The words of a text are plain from a place on if what has been read of the current one is. -/
theorem isPlain_of_mem_plainWordsFrom {word text piece : List Char}
    (read : ∀ c ∈ word, isPlain c = true) (member : piece ∈ plainWordsFrom word text) :
    ∀ c ∈ piece, isPlain c = true := by
  induction word, text using plainWordsFrom.induct with
  | case1 word empty =>
    rw [plainWordsFrom, if_pos empty] at member
    cases member
  | case2 word full =>
    rw [plainWordsFrom, if_neg full, List.mem_singleton] at member
    rw [member]
    exact fun c within => read c (List.mem_reverse.mp within)
  | case3 word c rest plain ih =>
    rw [plainWordsFrom, if_pos plain] at member
    exact ih (List.forall_mem_cons.mpr ⟨plain, read⟩) member
  | case4 word c rest ends empty ih =>
    rw [plainWordsFrom, if_neg ends, if_pos empty] at member
    exact ih (by simp) member
  | case5 word c rest ends full ih =>
    rw [plainWordsFrom, if_neg ends, if_neg full, List.mem_cons] at member
    rcases member with rfl | member
    · exact fun c within => read c (List.mem_reverse.mp within)
    · exact ih (by simp) member

/-- A word with its first letter in upper case is still plain. -/
theorem isPlain_of_mem_capitalize {word : List Char} {c : Char}
    (plain : ∀ c ∈ word, isPlain c = true) (member : c ∈ capitalize word) : isPlain c = true := by
  cases word with
  | nil => cases member
  | cons first rest =>
    obtain ⟨first_plain, rest_plain⟩ := List.forall_mem_cons.mp plain
    rcases List.mem_cons.mp member with rfl | member
    · exact isPlain_toUpper first_plain
    · exact rest_plain c member

/-- A suite that is made from a key has letters and digits only, whatever the key is. -/
theorem isPlain_of_mem_ofKey {key : String} {c : Char}
    (member : c ∈ (suiteName.ofKey key).toList) : isPlain c = true := by
  have literal (text : String) (plain : text.toList.all isPlain = true)
      (within : c ∈ text.toList) : isPlain c = true := List.all_eq_true.mp plain c within
  rw [suiteName.ofKey, String.toList_ofList, List.mem_append, List.mem_append] at member
  rcases member with (start | name) | ending
  · exact literal "Nc" (by decide) (List.mem_ite_nil_right.mp start).2
  · split at name
    · exact literal "Fragment" (by decide) name
    · obtain ⟨word, capitalized, within⟩ := List.mem_flatten.mp name
      obtain ⟨plain_word, listed, rfl⟩ := List.mem_map.mp capitalized
      exact isPlain_of_mem_capitalize (isPlain_of_mem_plainWordsFrom (by simp) listed) within
  · exact literal "NoCompileTest" (by decide) ending

/-- A line of a comment has nothing in it that was not in the line of the output. -/
theorem LineReading.keeps_commentLine (reading : LineReading) {line : List Char}
    (unbroken : ∀ c ∈ line, isLineBreak c = false) : reading.Keeps (commentLine line) := by
  refine reading.keeps_of_isLineBreak fun c member => ?_
  rw [commentLine, String.toList_ofList] at member
  have kept := (List.rdropWhile_prefix isBlank _).subset member
  rcases List.mem_append.mp kept with mark | body
  · have marked : ("//   ".toList.all fun c => !isLineBreak c) = true := by decide
    simpa using List.all_eq_true.mp marked c mark
  · have trimmed := (List.rdropWhile_prefix (· = '\\') _).subset body
    exact unbroken c ((List.rdropWhile_prefix isBlank _).subset trimmed)

/-- A comment is kept line by line, whatever the output is. -/
theorem LineReading.keeps_of_mem_commentBlock (reading : LineReading) {title text line : String}
    (titled : reading.Keeps title) (member : line ∈ commentBlock title text) :
    reading.Keeps line := by
  rw [commentBlock, List.mem_cons, List.mem_map] at member
  rcases member with rfl | ⟨piece, listed, rfl⟩
  · exact reading.keeps_append.mpr ⟨reading.keeps_of_all (by decide), titled⟩
  · exact reading.keeps_commentLine (exists_context_of_mem_lines listed).1

/-! ## Failed cases -/

section

variable {name : String} {earlier : List CaseResult} {found : CaseResult}

/-- The directive for a failed case of the fragment with a name. -/
def failureDirective (name : String) (found : CaseResult) : String :=
  errorLine s!"{name}: {found.testCase.name} [{found.status.name}]: {found.reason}"

/-- None of some cases was judged by a compiler run. -/
def IsUnshown (earlier : List CaseResult) (run : Compilation) : Prop :=
  ∀ other ∈ earlier, other.compilation.map (·.serial) ≠ some run.serial

/-- Whether a compiler run judged none of some cases can be told. -/
instance (earlier : List CaseResult) (run : Compilation) : Decidable (IsUnshown earlier run) :=
  inferInstanceAs (Decidable (∀ other ∈ earlier, _ ≠ _))

/-- The comment with what the compiler said about a case. -/
def caseComment (found : CaseResult) (run : Compilation) : List String :=
  commentBlock s!"compiler output for {found.testCase.name}:" run.output.output

/-- What the compiler said about a failed case, unless an earlier failed case shows it. -/
def outputLines (earlier : List CaseResult) (found : CaseResult) : List String :=
  match found.compilation with
  | none => []
  | some run => if IsUnshown earlier run then caseComment found run else []

/-- The lines for a failed case. -/
def failureSection (name : String) (earlier : List CaseResult) (found : CaseResult) :
    List String :=
  failureDirective name found :: outputLines earlier found

/-- The lines for some failed cases. -/
def failureSections (name : String) (failures : List CaseResult) : List (List String) :=
  failures.mapIdx fun index found => failureSection name (failures.take index) found

/-- The compiler runs that have been shown are those of some cases. -/
def ShownBy (shown : List Nat) (earlier : List CaseResult) : Prop :=
  ∀ serial, serial ∈ shown ↔ ∃ other ∈ earlier, other.compilation.map (·.serial) = some serial

/-- A run was shown just if it judged an earlier case. -/
theorem ShownBy.contains_iff {shown : List Nat} (shownBy : ShownBy shown earlier)
    (run : Compilation) : shown.contains run.serial = true ↔ ¬ IsUnshown earlier run := by
  rw [List.contains_iff_mem, shownBy, IsUnshown]
  push Not
  rfl

/-- A case that was not judged shows no run. -/
theorem ShownBy.append_none {shown : List Nat} (shownBy : ShownBy shown earlier)
    (unjudged : found.compilation = none) : ShownBy shown (earlier ++ [found]) := by
  intro serial
  rw [shownBy]
  simp [or_and_right, exists_or, unjudged]

/-- A case shows the run that judged it. -/
theorem ShownBy.append_some {shown : List Nat} (shownBy : ShownBy shown earlier)
    {run : Compilation} (judged : found.compilation = some run) :
    ShownBy (run.serial :: shown) (earlier ++ [found]) := by
  intro serial
  rw [List.mem_cons, shownBy, or_comm, eq_comm]
  simp [or_and_right, exists_or, judged]

/-- The lines for failed cases start with those of the first one. -/
theorem exists_failureLines_cons (name : String) (rest : List CaseResult) {shown : List Nat}
    (shownBy : ShownBy shown earlier) (failed : found.failed = true) :
    ∃ onward, ShownBy onward (earlier ++ [found]) ∧ failureLines name shown (found :: rest) =
      failureSection name earlier found ++ failureLines name onward rest := by
  rw [failureLines, if_neg (by simp [failed]), failureSection, outputLines]
  cases judged : found.compilation with
  | none => exact ⟨shown, shownBy.append_none judged, rfl⟩
  | some run =>
    have onward := shownBy.append_some judged
    dsimp only
    by_cases isShown : shown.contains run.serial = true
    · -- The run is in the list already, and adding it again would add nothing.
      have same : ShownBy shown (earlier ++ [found]) := fun serial => by
        rw [← onward serial, List.mem_cons]
        refine ⟨.inr, ?_⟩
        rintro (rfl | before)
        · exact List.contains_iff_mem.mp isShown
        · exact before
      rw [if_pos isShown, if_neg ((shownBy.contains_iff run).mp isShown)]
      exact ⟨shown, same, rfl⟩
    · rw [if_neg isShown, if_pos (not_not.mp (mt (shownBy.contains_iff run).mpr isShown))]
      exact ⟨_, onward, rfl⟩

/-- The lines for failed cases are those of each one, the outputs of earlier ones being shown. -/
theorem failureLines_eq_from (name : String) {shown : List Nat} (shownBy : ShownBy shown earlier)
    (results : List CaseResult) :
    failureLines name shown results = ((results.filter (·.failed)).mapIdx fun index found =>
      failureSection name (earlier ++ (results.filter (·.failed)).take index) found).flatten := by
  induction results generalizing earlier shown with
  | nil => rfl
  | cons found rest ih =>
    cases failed : found.failed with
    | false =>
      rw [failureLines, if_pos (by simp [failed]), List.filter_cons_of_neg (by simp [failed])]
      exact ih shownBy
    | true =>
      obtain ⟨onward, onwardBy, first⟩ := exists_failureLines_cons name rest shownBy failed
      -- What comes after this case comes after the earlier ones and this one.
      have shifted (index : Nat) :
          earlier ++ (found :: rest.filter (·.failed)).take (index + 1) =
            (earlier ++ [found]) ++ (rest.filter (·.failed)).take index := by
        rw [List.take_succ_cons, List.append_assoc, List.singleton_append]
      rw [first, ih onwardBy, List.filter_cons_of_pos failed, List.mapIdx_cons, List.flatten_cons,
        List.take_zero, List.append_nil]
      simp only [shifted]

/-- The lines for failed cases are those of each one. -/
theorem failureLines_eq (name : String) (results : List CaseResult) :
    failureLines name [] results =
      (failureSections name (results.filter (·.failed))).flatten := by
  have none_shown : ShownBy [] [] := fun serial => by simp
  rw [failureLines_eq_from name none_shown, failureSections]
  simp only [List.nil_append]

/-! ## Directives and comments -/

/-- A line that the preprocessor has nothing to do with: it is empty or a comment. -/
def IsQuiet (line : List Char) : Prop := line = [] ∨ "//".toList <+: line

/-- A quiet line is no directive. -/
theorem IsQuiet.not_isErrorLine {line : List Char} (quiet : IsQuiet line) : ¬ IsErrorLine line := by
  rintro ⟨message, rfl⟩
  rcases quiet with empty | ⟨rest, comment⟩
  · cases empty
  · cases comment

/-- The lines of a comment are quiet. -/
theorem isQuiet_of_mem_commentBlock {title text line : String}
    (member : line ∈ commentBlock title text) : IsQuiet line.toList := by
  rw [commentBlock, List.mem_cons, List.mem_map] at member
  rcases member with rfl | ⟨piece, -, rfl⟩
  · exact .inr ⟨' ' :: title.toList, by simp [String.toList_append]⟩
  · -- The mark of a comment does not end in a blank, so nothing of it is trimmed.
    rw [commentLine, String.toList_ofList]
    exact .inr (isPrefix_trimRight_append (by decide) _)

/-- What the compiler said about a failed case is quiet. -/
theorem isQuiet_of_mem_outputLines {line : String} (member : line ∈ outputLines earlier found) :
    IsQuiet line.toList := by
  rw [outputLines] at member
  split at member
  · cases member
  next run judged =>
    split at member
    · exact isQuiet_of_mem_commentBlock member
    · cases member

/-- The lines that every test starts with are quiet. -/
theorem isQuiet_of_mem_bannerLines {line : String} (member : line ∈ bannerLines result) :
    IsQuiet line.toList := by
  rw [bannerLines, List.mem_cons, List.mem_cons, List.mem_singleton] at member
  rcases member with rfl | rfl | rfl
  · simp only [String.toList_append, String.append_assoc]
    exact .inr ((by decide : "//".toList <+: "// Generated by ".toList).trans
      (List.prefix_append _ _))
  · exact .inr (by decide)
  · exact .inl rfl

end

/-! ## Shapes -/

/-- The cases of a fragment that failed, in order. -/
def failures (result : FragmentResult) : List CaseResult := result.cases.filter (·.failed)

/-- The directive for a fragment that could not be read. -/
def errorDirectives (result : FragmentResult) : List String :=
  result.error.toList.map fun message => errorLine s!"{result.name}: {message}"

/-- The test of a fragment that did not pass has its banner, its directives and the outputs. -/
theorem renderLines_of_not_passed (failed : result.passed = false) :
    renderLines result header suite = bannerLines result ++ errorDirectives result ++
      (failureSections result.name (failures result)).flatten := by
  rw [renderLines, if_neg (by simp [failed]), failureLines_eq, errorDirectives]
  cases result.error <;> rfl

/-- The section at an index shows the output of a compiler run: it is the directive of a failed case
that the run judged, none of the failed cases before it being judged by the run, and right after it
the comment with the output. -/
def ShownAt (result : FragmentResult) (serial index : Nat) : Prop :=
  ∃ found run, (failures result)[index]? = some found ∧ found.compilation = some run ∧
    run.serial = serial ∧ IsUnshown ((failures result).take index) run ∧
      (failureSections result.name (failures result))[index]? =
        some (failureDirective result.name found :: caseComment found run)

/-- The lines of a test for a fragment that passed. -/
structure HasTests (result : FragmentResult) (header : String) (suite : Option String)
    (lines : List (List Char)) : Prop where
  /-- After the banner and the header there is one test for each case, in order; that of a skipped
  case is disabled. -/
  lines_eq : lines = (bannerLines result ++ includeLines header ++ result.cases.map fun found =>
    "TEST(" ++ suiteName result.key suite ++ ", " ++
      ((if found.skipped then "DISABLED_" else "") ++ found.testCase.name) ++ ") \x7b\x7d").map
        String.toList
  /-- No line is an error directive. -/
  no_directive : ∀ line ∈ lines, ¬ IsErrorLine line

/-- The lines of a test for a fragment that did not pass. -/
structure HasErrors (result : FragmentResult) (lines : List (List Char)) : Prop where
  /-- After the banner there is the directive for the fragment, if it could not be read, and one
  section for each failed case, in order. -/
  lines_eq : lines = (bannerLines result ++ errorDirectives result ++
    (failureSections result.name (failures result)).flatten).map String.toList
  /-- The error directives are that for the fragment and one for each failed case, in order. -/
  directives : lines.filter (IsErrorLine ·) = (errorDirectives result ++
    (failures result).map (failureDirective result.name)).map String.toList
  /-- There is one. -/
  some_directive : ∃ line ∈ lines, IsErrorLine line
  /-- No line is a test. -/
  no_test : ∀ line ∈ lines, ¬ "TEST(".toList <+: line
  /-- No line includes a header. -/
  no_include : ∀ line ∈ lines, ¬ "#include".toList <+: line
  /-- Every other line is empty or a comment. -/
  quiet : ∀ line ∈ lines, ¬ IsErrorLine line → IsQuiet line
  /-- The output of every compiler run that judged a failed case is shown in exactly one section. -/
  shown_once : ∀ found ∈ failures result, ∀ run, found.compilation = some run →
    ∃! index, ShownAt result run.serial index

/-- The output of a run is not shown after a case that the run judged. -/
theorem ShownAt.not_lt {serial index other : Nat} (here : ShownAt result serial index)
    (there : ShownAt result serial other) : ¬ index < other := by
  intro before
  obtain ⟨found, run, listed, judged, numbered, -, -⟩ := here
  obtain ⟨-, again, -, -, renumbered, unshown, -⟩ := there
  have earlier : found ∈ (failures result).take other := by
    refine List.mem_of_getElem? (i := index) ?_
    rw [List.getElem?_take_of_lt before, listed]
  refine unshown found earlier ?_
  rw [judged, Option.map_some, numbered, renumbered]

/-- The output of a run that judged a failed case is shown in some section: that of the first failed
case that the run judged. -/
theorem exists_shownAt {found : CaseResult} {run : Compilation} (failed : found ∈ failures result)
    (judged : found.compilation = some run) : ∃ index, ShownAt result run.serial index := by
  have some_index : ∃ index : Nat, ∃ first : CaseResult,
      (failures result)[index]? = some first ∧ first.compilation.map (·.serial) = some run.serial := by
    obtain ⟨index, listed⟩ := List.mem_iff_getElem?.mp failed
    exact ⟨index, found, listed, by rw [judged, Option.map_some]⟩
  classical
  obtain ⟨first, listed, numbered⟩ := Nat.find_spec some_index
  obtain ⟨same, first_judged, serial⟩ := Option.map_eq_some_iff.mp numbered
  have unshown : IsUnshown ((failures result).take (Nat.find some_index)) same := by
    intro other before reached
    obtain ⟨place, within, rfl⟩ := List.mem_take_iff_getElem.mp before
    have inside : place < (failures result).length := lt_of_lt_of_le within (min_le_right _ _)
    refine Nat.find_min some_index (lt_of_lt_of_le within (min_le_left _ _))
      ⟨(failures result)[place], List.getElem?_eq_getElem inside, ?_⟩
    rw [reached, serial]
  refine ⟨_, first, same, listed, first_judged, serial, unshown, ?_⟩
  rw [failureSections, List.getElem?_mapIdx, listed, Option.map_some, failureSection, outputLines,
    first_judged]
  simp only [if_pos unshown]

/-- Every line of a test for a fragment that did not pass is a directive or quiet. -/
theorem isErrorLine_or_isQuiet (failed : result.passed = false) {line : String}
    (member : line ∈ renderLines result header suite) :
    IsErrorLine line.toList ∨ IsQuiet line.toList := by
  rw [renderLines_of_not_passed failed, List.mem_append, List.mem_append] at member
  rcases member with (banner | directive) | section_line
  · exact .inr (isQuiet_of_mem_bannerLines banner)
  · obtain ⟨message, -, rfl⟩ := List.mem_map.mp directive
    exact .inl (isErrorLine_errorLine _)
  · obtain ⟨part, listed, within⟩ := List.mem_flatten.mp section_line
    obtain ⟨index, inside, rfl⟩ := List.mem_mapIdx.mp listed
    rcases List.mem_cons.mp within with rfl | within
    · exact .inl (isErrorLine_errorLine _)
    · exact .inr (isQuiet_of_mem_outputLines within)

/-- Lines that are quiet hold no directive. -/
theorem filter_isErrorLine_eq_nil {lines : List String} (quiet : ∀ line ∈ lines, IsQuiet line.toList) :
    lines.filter (IsErrorLine ·.toList) = [] := by
  rw [List.filter_eq_nil_iff]
  intro line member directive
  exact (quiet line member).not_isErrorLine (of_decide_eq_true directive)

/-- The directives in the sections of failed cases are one for each case. -/
theorem filter_failureSections (name : String) (cases : List CaseResult) :
    (failureSections name cases).flatten.filter (IsErrorLine ·.toList) =
      cases.map (failureDirective name) := by
  have each (earlier : List CaseResult) (found : CaseResult) :
      (failureSection name earlier found).filter (IsErrorLine ·.toList) =
        [failureDirective name found] := by
    have directive : IsErrorLine (failureDirective name found).toList := isErrorLine_errorLine _
    rw [failureSection, List.filter_cons, if_pos (decide_eq_true directive),
      filter_isErrorLine_eq_nil fun _ => isQuiet_of_mem_outputLines]
  have parts : (failureSections name cases).map (List.filter (IsErrorLine ·.toList)) =
      cases.map fun found => [failureDirective name found] := by
    refine List.ext_getElem (by simp [failureSections]) fun index _ _ => ?_
    rw [List.getElem_map, List.getElem_map, ← each (cases.take index)]
    simp only [failureSections, List.getElem_mapIdx]
  rw [List.filter_flatten, parts, ← List.flatMap_def, ← List.map_eq_flatMap]

/-- A directive for a fragment that could not be read is a directive. -/
theorem isErrorLine_of_mem_errorDirectives {line : String} (member : line ∈ errorDirectives result) :
    IsErrorLine line.toList := by
  obtain ⟨message, -, rfl⟩ := List.mem_map.mp member
  exact isErrorLine_errorLine _

/-- The directives of a test for a fragment that did not pass. -/
theorem filter_renderLines (failed : result.passed = false) :
    (renderLines result header suite).filter (IsErrorLine ·.toList) =
      errorDirectives result ++ (failures result).map (failureDirective result.name) := by
  have whole : (errorDirectives result).filter (IsErrorLine ·.toList) = errorDirectives result :=
    List.filter_eq_self.mpr fun _ member => decide_eq_true (isErrorLine_of_mem_errorDirectives member)
  rw [renderLines_of_not_passed failed, List.filter_append, List.filter_append,
    filter_isErrorLine_eq_nil fun _ => isQuiet_of_mem_bannerLines, filter_failureSections, whole,
    List.nil_append]

/-- A fragment that did not pass has a directive. -/
theorem directives_ne_nil (failed : result.passed = false) :
    errorDirectives result ++ (failures result).map (failureDirective result.name) ≠ [] := by
  intro empty
  obtain ⟨unerring, unfailing⟩ := List.append_eq_nil_iff.mp empty
  rw [errorDirectives, List.map_eq_nil_iff, Option.toList_eq_nil_iff] at unerring
  rw [List.map_eq_nil_iff, failures, List.filter_eq_nil_iff] at unfailing
  rw [FragmentResult.passed, unerring, Bool.and_eq_false_iff] at failed
  rcases failed with error | some_failed
  · cases error
  · rw [Bool.not_eq_false', List.any_eq_true] at some_failed
    obtain ⟨found, listed, found_failed⟩ := some_failed
    exact unfailing found listed found_failed

/-- A line of a test for a fragment that did not pass starts like a directive or a comment. -/
theorem not_isPrefix_of_mem_renderLines (failed : result.passed = false) {line : String}
    (member : line ∈ renderLines result header suite) {word : List Char}
    (strange : word ≠ [] ∧ ¬ word <+: "#error".toList ∧ ¬ "#error".toList <+: word ∧
      ¬ word <+: "//".toList ∧ ¬ "//".toList <+: word) : ¬ word <+: line.toList := by
  intro starts
  obtain ⟨unempty, short, long, brief, wide⟩ := strange
  rcases isErrorLine_or_isQuiet failed member with directive | empty | comment
  · exact (List.prefix_or_prefix_of_prefix starts directive).elim short long
  · rw [empty, List.prefix_nil] at starts
    exact unempty starts
  · exact (List.prefix_or_prefix_of_prefix starts comment).elim brief wide

/-- What a test for a fragment that did not pass is made of. -/
theorem hasErrors_renderLines (failed : result.passed = false) :
    HasErrors result ((renderLines result header suite).map String.toList) where
  lines_eq := by rw [renderLines_of_not_passed failed]
  directives := by
    rw [List.filter_map, Function.comp_def, filter_renderLines failed]
  some_directive := by
    obtain ⟨line, member⟩ := List.exists_mem_of_ne_nil _ (directives_ne_nil failed)
    rw [← filter_renderLines failed, List.mem_filter, decide_eq_true_eq] at member
    exact ⟨line.toList, List.mem_map_of_mem member.1, member.2⟩
  no_test := by
    intro line member tests
    obtain ⟨text, listed, rfl⟩ := List.mem_map.mp member
    exact not_isPrefix_of_mem_renderLines failed listed (by decide) tests
  no_include := by
    intro line member includes
    obtain ⟨text, listed, rfl⟩ := List.mem_map.mp member
    exact not_isPrefix_of_mem_renderLines failed listed (by decide) includes
  quiet := by
    intro line member undirected
    obtain ⟨text, listed, rfl⟩ := List.mem_map.mp member
    exact (isErrorLine_or_isQuiet failed listed).resolve_left undirected
  shown_once := by
    intro found failed run judged
    obtain ⟨index, here⟩ := exists_shownAt failed judged
    refine ⟨index, here, fun other there => ?_⟩
    exact le_antisymm (not_lt.mp (here.not_lt there)) (not_lt.mp (there.not_lt here))

/-- What starts like something else is no directive. -/
theorem not_isErrorLine_append {start : String} (rest : String)
    (strange : ¬ start.toList <+: "#error".toList ∧ ¬ "#error".toList <+: start.toList) :
    ¬ IsErrorLine (start ++ rest).toList := by
  intro directive
  rw [String.toList_append] at directive
  exact (List.prefix_or_prefix_of_prefix (List.prefix_append _ _) directive).elim strange.1 strange.2

/-- What a test for a fragment that passed is made of. -/
theorem hasTests_renderLines (passed : result.passed = true) :
    HasTests result header suite ((renderLines result header suite).map String.toList) where
  lines_eq := by
    rw [renderLines, if_pos passed]
    congr 2
    refine List.map_congr_left fun found _ => ?_
    rw [testLine]
    split <;> simp
  no_directive := by
    intro line member
    obtain ⟨text, listed, rfl⟩ := List.mem_map.mp member
    rw [renderLines, if_pos passed, List.mem_append, List.mem_append] at listed
    rcases listed with (banner | included) | test
    · exact (isQuiet_of_mem_bannerLines banner).not_isErrorLine
    · rw [includeLines] at included
      split at included
      · cases included
      · rcases List.mem_pair.mp included with rfl | rfl
        · rw [String.append_assoc]
          exact not_isErrorLine_append _ (by decide)
        · decide
    · obtain ⟨found, -, rfl⟩ := List.mem_map.mp test
      rw [testLine, String.append_assoc, String.append_assoc, String.append_assoc]
      exact not_isErrorLine_append _ (by decide)

/-! ## Reading -/

section

variable (reading : LineReading)

/-- The suite of a test is kept if a given one is. -/
theorem LineReading.keeps_suiteName (key : String)
    (suited : ∀ name, suite = some name → reading.Keeps name) :
    reading.Keeps (suiteName key suite) := by
  have made : reading.Keeps (suiteName.ofKey key) := reading.keeps_of_isLineBreak fun _ member =>
    (isVisible_of_isPlain (isPlain_of_mem_ofKey member)).isLineBreak
  cases suite with
  | none => exact made
  | some name =>
    rw [suiteName]
    split
    · exact made
    · exact suited name rfl

/-- The banner is kept if the path is. -/
theorem LineReading.keeps_of_mem_bannerLines (located : reading.Keeps (toString result.path))
    {line : String} (member : line ∈ bannerLines result) : reading.Keeps line := by
  rw [bannerLines, List.mem_cons, List.mem_cons, List.mem_singleton] at member
  rcases member with rfl | rfl | rfl
  · simp only [keeps_append]
    exact ⟨⟨⟨⟨⟨⟨reading.keeps_of_all (by decide), reading.keeps_of_all (by decide)⟩,
      reading.keeps_of_all (by decide)⟩, reading.keeps_of_all (by decide)⟩,
      reading.keeps_of_all (by decide)⟩, located⟩, reading.keeps_of_all (by decide)⟩
  · exact reading.keeps_of_all (by decide)
  · exact reading.keeps_of_all (by decide)

/-- The lines for a failed case are kept if its name is, whatever the compiler printed. -/
theorem LineReading.keeps_of_mem_failureSection {name : String} {earlier : List CaseResult}
    {found : CaseResult} (named : reading.Keeps found.testCase.name) {line : String}
    (member : line ∈ failureSection name earlier found) : reading.Keeps line := by
  rcases List.mem_cons.mp member with rfl | said
  · exact reading.keeps_errorLine _
  · rw [outputLines] at said
    split at said
    · cases said
    next run _ =>
      split at said
      · refine reading.keeps_of_mem_commentBlock ?_ said
        simp only [keeps_append]
        exact ⟨⟨reading.keeps_of_all (by decide), named⟩, reading.keeps_of_all (by decide)⟩
      · cases said

/-- The line that includes a header is kept if its name is. -/
theorem LineReading.keeps_of_mem_includeLines (included : reading.Keeps header) {line : String}
    (member : line ∈ includeLines header) : reading.Keeps line := by
  rw [includeLines] at member
  split at member
  · cases member
  · rcases List.mem_pair.mp member with rfl | rfl
    · simp only [keeps_append]
      exact ⟨⟨reading.keeps_of_all (by decide), included⟩, reading.keeps_of_all (by decide)⟩
    · exact reading.keeps_of_all (by decide)

/-- The line of a test is kept if its name is and that of its suite. -/
theorem LineReading.keeps_testLine {name : String} {found : CaseResult} (suited : reading.Keeps name)
    (named : reading.Keeps found.testCase.name) : reading.Keeps (testLine name found) := by
  have shown : reading.Keeps (if found.skipped then "DISABLED_" ++ found.testCase.name
      else found.testCase.name) := by
    split
    · exact reading.keeps_append.mpr ⟨reading.keeps_of_all (by decide), named⟩
    · exact named
  simp only [testLine, keeps_append]
  exact ⟨⟨⟨⟨reading.keeps_of_all (by decide), suited⟩, reading.keeps_of_all (by decide)⟩, shown⟩,
    reading.keeps_of_all (by decide)⟩

/-- A generated test is made of lines that are kept. -/
theorem LineReading.keeps_of_mem_renderLines (located : reading.Keeps (toString result.path))
    (included : reading.Keeps header) (suited : ∀ name, suite = some name → reading.Keeps name)
    (named : ∀ found ∈ result.cases, reading.Keeps found.testCase.name) {line : String}
    (member : line ∈ renderLines result header suite) : reading.Keeps line := by
  cases passed : result.passed with
  | true =>
    rw [renderLines, if_pos passed, List.mem_append, List.mem_append] at member
    rcases member with (banner | include_line) | test
    · exact reading.keeps_of_mem_bannerLines located banner
    · exact reading.keeps_of_mem_includeLines included include_line
    · obtain ⟨found, listed, rfl⟩ := List.mem_map.mp test
      exact reading.keeps_testLine (reading.keeps_suiteName _ suited) (named found listed)
  | false =>
    rw [renderLines_of_not_passed passed, List.mem_append, List.mem_append] at member
    rcases member with (banner | directive) | section_line
    · exact reading.keeps_of_mem_bannerLines located banner
    · obtain ⟨message, -, rfl⟩ := List.mem_map.mp directive
      exact reading.keeps_errorLine _
    · obtain ⟨part, listed, within⟩ := List.mem_flatten.mp section_line
      obtain ⟨index, inside, rfl⟩ := List.mem_mapIdx.mp listed
      have listed := List.getElem_mem inside
      exact reading.keeps_of_mem_failureSection (named _ (List.mem_of_mem_filter listed)) within

end

/-- A generated test has a line. -/
theorem renderLines_ne_nil : renderLines result header suite ≠ [] := by
  rw [renderLines]
  split <;> simp [bannerLines]

/-- A generated test is read as the lines it was made of. -/
theorem LineReading.read_render (reading : LineReading) (located : reading.Keeps (toString result.path))
    (included : reading.Keeps header) (suited : ∀ name, suite = some name → reading.Keeps name)
    (named : ∀ found ∈ result.cases, reading.Keeps found.testCase.name) :
    reading.read (render result header suite) =
      (renderLines result header suite).map String.toList :=
  reading.read_ofLines _ renderLines_ne_nil fun _ member =>
    reading.keeps_of_mem_renderLines located included suited named member

/-- The shape of a generated test follows the verdict. -/
theorem shape_of_render (reading : LineReading) (located : reading.Keeps (toString result.path))
    (included : reading.Keeps header) (suited : ∀ name, suite = some name → reading.Keeps name)
    (named : ∀ found ∈ result.cases, reading.Keeps found.testCase.name) :
    (result.passed = true →
      HasTests result header suite (reading.read (render result header suite))) ∧
    (result.passed = false → HasErrors result (reading.read (render result header suite))) := by
  rw [reading.read_render located included suited named]
  exact ⟨hasTests_renderLines, hasErrors_renderLines⟩

namespace Hostile

/-- A compiler run that prints what a generated test is made of. -/
def run : Compilation :=
  ⟨0, ⟨["c++"], some 0, "TEST(A, b) \x7b\x7d\n#error \"c\"\r#include <d>\\\n", .zero, [], false, false⟩⟩

/-- A case that was judged by the run. -/
def found (name : String) : CaseResult :=
  ⟨⟨name, ⟨1, 1⟩, [], true, none⟩, .unexpectedSuccess, .zero, none, some run, "accepted\n#include"⟩

/-- A fragment with two cases that were judged by the run. -/
def outcome : FragmentResult :=
  ⟨.ofParts ["a.nc"], "a.nc", none, [found "line_1", found "line_2"], none, none⟩

end Hostile

/-- Nothing of a hostile output gets out of the comments: the test for two cases with one output has
one directive for each, and the output after the first one. -/
theorem shape_of_hostile_output :
    (Hostile.outcome.passed = true → HasTests Hostile.outcome "gtest/gtest.h" (some "Suite")
      (LineReading.allBreaks.read (render Hostile.outcome "gtest/gtest.h" (some "Suite")))) ∧
    (Hostile.outcome.passed = false → HasErrors Hostile.outcome
      (LineReading.allBreaks.read (render Hostile.outcome "gtest/gtest.h" (some "Suite")))) := by
  have located : LineReading.allBreaks.Keeps (toString Hostile.outcome.path) :=
    LineReading.keeps_of_all _ (by decide)
  have included : LineReading.allBreaks.Keeps "gtest/gtest.h" :=
    LineReading.keeps_of_all _ (by decide)
  have suited : ∀ name, some "Suite" = some name → LineReading.allBreaks.Keeps name := by
    rintro _ ⟨⟩
    exact LineReading.keeps_of_all _ (by decide)
  have named : ∀ found ∈ Hostile.outcome.cases, LineReading.allBreaks.Keeps found.testCase.name := by
    intro found member
    rcases List.mem_pair.mp member with rfl | rfl
    · exact LineReading.keeps_of_all _ (by decide)
    · exact LineReading.keeps_of_all _ (by decide)
  exact shape_of_render LineReading.allBreaks located included suited named

end NegativeCompile.Artifact
