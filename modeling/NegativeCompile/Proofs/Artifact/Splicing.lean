import NegativeCompile.Proofs.Artifact.Shaping

/-! # Lines that swallow the next one

A preprocessor joins a line that ends in a backslash with the next one, and compilers let blanks
stand after the backslash. Which lines of a generated test end so is determined by the texts that
get into it as they are (`no_line_continues_iff`): a path, a header, a suite or a name may hold a
backslash before a line feed, and a line of the output may hide one (`HidesBackslash`). A comment
loses the blanks and then the backslashes at the end of a line, once each, so a backslash before
these is left at its end. -/

namespace NegativeCompile.Artifact

open Text

variable {text start rest before after blanks line : List Char} {c : Char}

/-! ## Backslashes at the end of a line -/

/-- A line goes on in the next one: it ends in a backslash, blanks apart. -/
def Continues (line : List Char) : Prop := (trimRight line).getLast? = some '\\'

/-- Whether a line goes on in the next one can be told. -/
instance (line : List Char) : Decidable (Continues line) := inferInstanceAs (Decidable (_ = _))

/-- All of some characters are blank. -/
def AllBlank (blanks : List Char) : Prop := ∀ c ∈ blanks, isBlank c = true

/-- A backslash is not blank. -/
theorem isBlank_backslash : isBlank '\\' = false := by decide

/-- What is dropped at the end does not count. -/
theorem rdropWhile_append_of_all {test : Char → Bool} (all : ∀ c ∈ rest, test c = true) :
    (start ++ rest).rdropWhile test = start.rdropWhile test := by
  rw [List.rdropWhile, List.reverse_append, List.dropWhile_append_of_pos, List.rdropWhile]
  exact fun c member => all c (List.mem_reverse.mp member)

/-- A line goes on in the next one just if nothing but blanks comes after some backslash. -/
theorem continues_iff :
    Continues line ↔ ∃ start blanks, AllBlank blanks ∧ line = start ++ '\\' :: blanks := by
  constructor
  · intro continues
    obtain ⟨start, ends⟩ := List.getLast?_eq_some_iff.mp continues
    rw [trimRight_eq] at ends
    refine ⟨start, line.rtakeWhile isBlank, fun c => List.mem_rtakeWhile_imp, ?_⟩
    rw [List.append_cons, ← ends, List.rdropWhile_append_rtakeWhile]
  · rintro ⟨start, blanks, blank, rfl⟩
    rw [Continues, trimRight_eq, List.append_cons, rdropWhile_append_of_all blank,
      List.rdropWhile_concat_neg _ _ _ (by decide)]
    exact List.getLast?_concat

/-- A text without backslashes does not matter at the start of a line. -/
theorem continues_append (plain : '\\' ∉ before) :
    Continues (before ++ line) ↔ Continues line := by
  rw [continues_iff, continues_iff]
  constructor
  · rintro ⟨start, blanks, blank, split⟩
    rcases List.append_eq_append_iff.mp split with ⟨more, rfl, rfl⟩ | ⟨more, rfl, slash⟩
    · exact ⟨more, blanks, blank, rfl⟩
    · cases more with
      | nil => exact ⟨[], blanks, blank, slash.symm⟩
      | cons c more =>
        obtain ⟨rfl, -⟩ := List.cons.inj slash
        exact absurd (List.mem_append_right start List.mem_cons_self) plain
  · rintro ⟨start, blanks, blank, rfl⟩
    exact ⟨before ++ start, blanks, blank, (List.append_assoc _ _ _).symm⟩

/-! ## Backslashes before a line feed -/

/-- A text joins two of its lines: a backslash, blanks and a line feed come after each other. -/
def Splices (text : List Char) : Prop :=
  ∃ blanks, AllBlank blanks ∧ '\\' :: blanks ++ ['\n'] <:+: text

/-- A text that joins two lines holds a line feed. -/
theorem Splices.feed_mem (splices : Splices text) : '\n' ∈ text := by
  obtain ⟨blanks, -, occurs⟩ := splices
  exact occurs.subset (List.mem_append_right _ List.mem_cons_self)

/-- A character that is no backslash joins nothing at the start. -/
theorem splices_cons (unlike : c ≠ '\\') : Splices (c :: text) ↔ Splices text := by
  refine exists_congr fun blanks => and_congr_right fun _ => ?_
  rw [List.infix_cons_iff, or_iff_right]
  rintro ⟨rest, starts⟩
  exact unlike (List.cons.inj starts).1.symm

/-- A text without backslashes does not matter before another one. -/
theorem splices_append (plain : '\\' ∉ before) : Splices (before ++ text) ↔ Splices text := by
  induction before with
  | nil => rfl
  | cons c before ih =>
    obtain ⟨unlike, plain⟩ := not_or.mp (mt List.mem_cons.mpr plain)
    rw [List.cons_append, splices_cons (Ne.symm unlike), ih plain]

/-- A character that is no backslash and no blank keeps what is before it from what is after it. -/
theorem splices_append_cons (unlike : c ≠ '\\') (visible : isBlank c = false) :
    Splices (before ++ c :: after) ↔ Splices before ∨ Splices after := by
  constructor
  · rintro ⟨blanks, blank, occurs⟩
    have missing : c ∉ '\\' :: blanks ++ ['\n'] := by
      simp only [List.cons_append, List.mem_cons, List.mem_append, List.not_mem_nil, or_false,
        not_or]
      refine ⟨unlike, fun member => ?_, ?_⟩
      · rw [blank c member] at visible
        cases visible
      · rintro rfl
        exact absurd visible (by decide)
    rcases isInfix_or_of_notMem missing occurs with first | later
    · exact .inl ⟨blanks, blank, first⟩
    · exact .inr ⟨blanks, blank, later⟩
  · rintro (⟨blanks, blank, occurs⟩ | ⟨blanks, blank, occurs⟩)
    · exact ⟨blanks, blank, occurs.trans (List.prefix_append _ _).isInfix⟩
    · exact ⟨blanks, blank, occurs.trans
        ((List.suffix_cons c after).trans (List.suffix_append _ _)).isInfix⟩

/-- What joins two lines around a line feed joins those before it or after it. -/
theorem splices_append_feed :
    Splices (before ++ '\n' :: after) ↔ Splices (before ++ ['\n']) ∨ Splices after := by
  constructor
  · rintro ⟨blanks, blank, start, rest, split⟩
    have whole : start ++ '\\' :: (blanks ++ '\n' :: rest) = before ++ '\n' :: after := by
      simpa using split
    rcases List.append_eq_append_iff.mp whole with ⟨more, rfl, slash⟩ | ⟨more, rfl, feed⟩
    · -- The backslash comes before the line feed.
      cases more with
      | nil => cases slash
      | cons c more =>
        obtain ⟨rfl, later⟩ := List.cons.inj slash
        refine .inl ?_
        rcases List.append_eq_append_iff.mp later with ⟨others, rfl, feed⟩ | ⟨others, rfl, feed⟩
        · -- Both line feeds come after the blanks, and the first of them is near enough.
          have fed : '\\' :: blanks ++ ['\n'] <+: '\\' :: blanks ++ (others ++ ['\n']) := by
            rw [List.prefix_append_right_inj]
            cases others with
            | nil => exact List.prefix_rfl
            | cons d others =>
              obtain ⟨rfl, -⟩ := List.cons.inj feed
              exact ⟨others ++ ['\n'], rfl⟩
          refine ⟨blanks, blank, fed.isInfix.trans ⟨start, [], ?_⟩⟩
          simp
        · -- The line feed is one of the blanks, and those before it will do.
          have fewer : AllBlank more := fun c member => blank c (List.mem_append_left _ member)
          exact ⟨more, fewer, start, [], by simp⟩
    · -- The backslash comes after the line feed.
      cases more with
      | nil => cases feed
      | cons c more =>
        obtain ⟨rfl, later⟩ := List.cons.inj feed
        rw [later]
        exact .inr ⟨blanks, blank, more, rest, by simp⟩
  · rintro (⟨blanks, blank, occurs⟩ | ⟨blanks, blank, occurs⟩)
    · refine ⟨blanks, blank, occurs.trans ⟨[], after, by simp⟩⟩
    · exact ⟨blanks, blank, occurs.trans
        ((List.suffix_cons '\n' after).trans (List.suffix_append _ _)).isInfix⟩

/-- A line goes on in the next one just if it is joined with it by a line feed. -/
theorem splices_feed (single : '\n' ∉ line) : Splices (line ++ ['\n']) ↔ Continues line := by
  rw [continues_iff]
  constructor
  · rintro ⟨blanks, blank, start, rest, split⟩
    have whole : (start ++ '\\' :: blanks) ++ '\n' :: rest = line ++ ['\n'] := by simpa using split
    -- There is one line feed only, so the text ends with the one that was found.
    have ends : rest = [] := by
      rcases List.eq_nil_or_concat rest with rfl | ⟨more, c, rfl⟩
      · rfl
      · rw [List.concat_eq_append, ← List.cons_append, ← List.append_assoc] at whole
        obtain ⟨rfl, -⟩ := List.append_inj' whole rfl
        exact absurd (List.mem_append_right _ List.mem_cons_self) single
    rw [ends, List.append_cancel_right_eq] at whole
    exact ⟨start, blanks, blank, whole.symm⟩
  · rintro ⟨start, blanks, blank, rfl⟩
    exact ⟨blanks, blank, start, [], by simp⟩

/-- Some line of a text goes on in the next one just if, a line feed after the text, two lines are
joined. -/
theorem exists_continues_iff (text : List Char) :
    (∃ line ∈ text.splitOn '\n', Continues line) ↔ Splices (text ++ ['\n']) := by
  by_cases fed : '\n' ∈ text
  · obtain ⟨before, after, rfl, free⟩ := List.eq_append_cons_of_mem fed
    rw [List.splitOn_append_cons_self_of_not_mem free, List.append_assoc, List.cons_append,
      splices_append_feed, splices_feed free, ← exists_continues_iff after]
    exact List.exists_mem_cons_iff _ _ _
  · rw [List.splitOn_eq_singleton fed, splices_feed fed]
    simp
termination_by text.length
decreasing_by
  simp only [*, List.length_append, List.length_cons]
  omega

/-! ## Lines of generated tests -/

/-- A line of output hides a backslash: it ends in a backslash, blanks, more backslashes and maybe
more blanks. -/
def HidesBackslash (line : List Char) : Prop :=
  ∃ start blanks slashes tail, AllBlank blanks ∧ blanks ≠ [] ∧ (∀ c ∈ slashes, c = '\\') ∧
    slashes ≠ [] ∧ AllBlank tail ∧ line = start ++ '\\' :: blanks ++ slashes ++ tail

/-- Blanks at the end of a line do not matter. -/
theorem continues_trimRight : Continues (trimRight line) ↔ Continues line := by
  rw [Continues, Continues, trimRight_eq, trimRight_eq, List.rdropWhile_idempotent]

/-- A line whose last backslashes were dropped goes on only if there are blanks before them and another
backslash before the blanks. -/
theorem hidesBackslash_of_continues (continues : Continues ((trimRight line).rdropWhile (· = '\\'))) :
    HidesBackslash line := by
  obtain ⟨start, blanks, blank, kept⟩ := continues_iff.mp continues
  set trimmed := trimRight line with trimmed_eq
  -- The last character that is left is no backslash, so blanks come after the one that is.
  have some_blank : blanks ≠ [] := by
    rintro rfl
    have last := List.rdropWhile_last_not (fun c => decide (c = '\\')) trimmed
      (by rw [kept]; simp)
    simp [kept] at last
  have split : trimmed = start ++ '\\' :: blanks ++ trimmed.rtakeWhile (· = '\\') := by
    rw [← kept, List.rdropWhile_append_rtakeWhile]
  -- The trimmed line ends in no blank, so backslashes have been dropped from it.
  have some_slash : trimmed.rtakeWhile (· = '\\') ≠ [] := by
    intro none
    obtain ⟨others, c, rfl⟩ := List.eq_nil_or_concat blanks |>.resolve_left some_blank
    have ends : trimmed = (start ++ '\\' :: others) ++ [c] := by
      rw [split, none]
      simp
    have again : trimRight trimmed = trimmed := List.rdropWhile_idempotent _ _
    rw [ends, trimRight_eq, List.rdropWhile_concat_pos _ _ _ (blank c (by simp))] at again
    have shorter := congrArg List.length again
    have bound := (List.rdropWhile_prefix isBlank (start ++ '\\' :: others)).length_le
    rw [List.length_append, List.length_singleton] at shorter
    omega
  refine ⟨start, blanks, trimmed.rtakeWhile (· = '\\'), line.rtakeWhile isBlank, blank, some_blank,
    fun c member => by simpa using List.mem_rtakeWhile_imp member, some_slash,
    fun c => List.mem_rtakeWhile_imp, ?_⟩
  rw [← split, trimmed_eq, trimRight_eq, List.rdropWhile_append_rtakeWhile]

/-- If a line hides a backslash, it comes out when the backslashes and blanks after it are dropped. -/
theorem HidesBackslash.continues (hides : HidesBackslash line) :
    Continues ((trimRight line).rdropWhile (· = '\\')) := by
  obtain ⟨start, blanks, slashes, tail, blank, some_blank, all_slash, some_slash, tail_blank, rfl⟩ := hides
  have trimmed : trimRight (start ++ '\\' :: blanks ++ slashes ++ tail) =
      start ++ '\\' :: blanks ++ slashes := by
    obtain ⟨others, c, rfl⟩ := List.eq_nil_or_concat slashes |>.resolve_left some_slash
    have last : c = '\\' := all_slash c (by simp)
    rw [trimRight_eq, rdropWhile_append_of_all tail_blank, List.concat_eq_append,
      ← List.append_assoc, List.rdropWhile_concat_neg _ _ _ (by rw [last]; decide)]
  have dropped : (start ++ '\\' :: blanks ++ slashes).rdropWhile (· = '\\') =
      start ++ '\\' :: blanks := by
    obtain ⟨others, c, rfl⟩ := List.eq_nil_or_concat blanks |>.resolve_left some_blank
    have unlike : c ≠ '\\' := by
      rintro rfl
      have blank_slash := blank '\\' (by simp)
      rw [isBlank_backslash] at blank_slash
      cases blank_slash
    rw [rdropWhile_append_of_all fun d member => by simpa using all_slash d member,
      List.concat_eq_append, ← List.cons_append, ← List.append_assoc,
      List.rdropWhile_concat_neg _ _ _ (by simpa using unlike)]
  rw [trimmed, dropped]
  exact continues_iff.mpr ⟨start, blanks, blank, rfl⟩

/-- What is left of a line without the blanks and then the backslashes at its end goes on in the next
line just if the line hides a backslash. -/
theorem continues_rdropWhile :
    Continues ((trimRight line).rdropWhile (· = '\\')) ↔ HidesBackslash line :=
  ⟨hidesBackslash_of_continues, HidesBackslash.continues⟩

/-- A line of a comment goes on in the next one just if its line of the output hides a backslash. -/
theorem continues_commentLine (line : List Char) :
    Continues (commentLine line).toList ↔ HidesBackslash line := by
  rw [commentLine, String.toList_ofList, continues_trimRight, continues_append (by decide)]
  exact continues_rdropWhile

section

variable {header key name : String} {suite : Option String} {result : FragmentResult}
variable {earlier : List CaseResult} {found : CaseResult}

/-- A line of a generated test goes on in the next one, a line feed in it counting as well. -/
def GoesOn (line : String) : Prop := Splices (line.toList ++ ['\n'])

/-- Some line of a generated test goes on in the next one just if some line that it was made of
does. -/
theorem exists_continues_render_iff :
    (∃ line ∈ linesOf (render result header suite), Continues line) ↔
      ∃ line ∈ renderLines result header suite, GoesOn line := by
  have ended : ¬ Continues [] := by decide
  rw [render, linesOf_ofLines renderLines_ne_nil]
  simp only [List.mem_append, List.mem_flatMap, List.mem_singleton, or_and_right, exists_or,
    exists_eq_left, ended, or_false, GoesOn, ← exists_continues_iff, linesOf]
  constructor
  · rintro ⟨line, ⟨whole, listed, within⟩, continues⟩
    exact ⟨whole, listed, line, within, continues⟩
  · rintro ⟨whole, listed, line, within, continues⟩
    exact ⟨line, ⟨whole, listed, within⟩, continues⟩

/-- A text without backslashes joins nothing. -/
theorem not_splices (plain : '\\' ∉ text) : ¬ Splices text := by
  rintro ⟨blanks, -, occurs⟩
  exact plain (occurs.subset List.mem_cons_self)

/-- A line with an opening without backslashes and a closing that cannot be mistaken joins lines just
if the text between them does. -/
theorem splices_enclosed {opening body closing : List Char} (plain : '\\' ∉ opening)
    (unlike : c ≠ '\\') (visible : isBlank c = false) (rest_plain : '\\' ∉ closing) :
    Splices (opening ++ (body ++ c :: closing)) ↔ Splices body := by
  rw [splices_append plain, splices_append_cons unlike visible]
  exact or_iff_left (not_splices rest_plain)

/-- A directive does not go on in the next line, whatever its message is: it is one line that ends in
a quotation mark. -/
theorem not_goesOn_errorLine (message : String) : ¬ GoesOn (errorLine message) := by
  obtain ⟨start, split, within⟩ : ∃ start, (errorLine message).toList = start ++ ['"'] ∧
      '\n' ∉ start := by
    refine ⟨"#error ".toList ++ '"' :: ([' '].intercalate (words message.toList)).flatMap literalChar,
      ?_, ?_⟩
    · rw [errorLine, stringLiteral, String.toList_append, String.toList_ofList]
      simp
    · rw [List.mem_append, List.mem_cons, List.mem_flatMap]
      rintro (opening | quote | ⟨d, -, member⟩)
      · exact absurd opening (by decide)
      · cases quote
      · exact absurd (isVisible_of_mem_literalChar member) (by decide)
  rw [GoesOn, split, List.append_assoc, List.singleton_append,
    splices_append_cons (by decide) (by decide)]
  rintro (first | last)
  · exact within first.feed_mem
  · exact not_splices (by decide) last

/-- The banner goes on in the next line just if the path joins lines. -/
theorem exists_goesOn_bannerLines :
    (∃ line ∈ bannerLines result, GoesOn line) ↔ Splices (toString result.path).toList := by
  have second : ¬ GoesOn "// Do not edit." := not_splices (by decide)
  have third : ¬ GoesOn "" := not_splices (by decide)
  simp only [bannerLines, List.exists_mem_cons_iff, second, third, or_false, List.not_mem_nil,
    false_and, exists_false]
  -- Before the path there are only the name and the version of the program.
  have plain : '\\' ∉ ("// Generated by " ++ programName ++ " " ++ version ++ " from ").toList := by
    decide
  have first : ("// Generated by " ++ programName ++ " " ++ version ++ " from " ++
      toString result.path ++ ".").toList ++ ['\n'] =
        ("// Generated by " ++ programName ++ " " ++ version ++ " from ").toList ++
          ((toString result.path).toList ++ '.' :: ['\n']) := by
    simp [String.toList_append]
  have enclosed : Splices (("// Generated by " ++ programName ++ " " ++ version ++ " from ").toList ++
      ((toString result.path).toList ++ '.' :: ['\n'])) ↔ Splices (toString result.path).toList :=
    splices_enclosed plain (by decide) (by decide) (by decide)
  rw [← first] at enclosed
  exact enclosed

/-- The lines for a header go on in the next ones just if the header joins lines. -/
theorem exists_goesOn_includeLines :
    (∃ line ∈ includeLines header, GoesOn line) ↔ Splices header.toList := by
  rw [includeLines]
  split
  next empty =>
    have none : ¬ Splices header.toList := by
      rw [String.isEmpty_iff.mp empty]
      exact not_splices (by decide)
    simpa using none
  next =>
    have second : ¬ GoesOn "" := not_splices (by decide)
    have first : ("#include \"" ++ header ++ "\"").toList ++ ['\n'] =
        "#include \"".toList ++ (header.toList ++ '"' :: ['\n']) := by
      simp [String.toList_append]
    simp only [List.exists_mem_cons_iff, second, or_false, List.not_mem_nil, false_and, exists_false]
    rw [GoesOn, first]
    exact splices_enclosed (by decide) (by decide) (by decide) (by decide)

/-- A suite joins lines just if it was given and does: one that is made from a key has letters and
digits only. -/
theorem splices_suiteName :
    Splices (suiteName key suite).toList ↔ ∃ name, suite = some name ∧ Splices name.toList := by
  have made : ¬ Splices (suiteName.ofKey key).toList := by
    refine not_splices fun slash => ?_
    exact absurd (isPlain_of_mem_ofKey slash) (by decide)
  cases suite with
  | none => simpa [suiteName] using made
  | some name =>
    rw [suiteName]
    split
    next empty =>
      have none : ¬ Splices name.toList := by
        rw [String.isEmpty_iff.mp empty]
        exact not_splices (by decide)
      simp [made, none]
    next => simp

/-- A test goes on in the next line just if its suite or the name of its case joins lines. -/
theorem goesOn_testLine : GoesOn (testLine name found) ↔
    Splices name.toList ∨ Splices found.testCase.name.toList := by
  have shown : (testLine name found).toList ++ ['\n'] = "TEST(".toList ++ (name.toList ++ ',' ::
      ((if found.skipped then " DISABLED_" else " ").toList ++
        (found.testCase.name.toList ++ ')' :: " \x7b\x7d\n".toList))) := by
    rw [testLine]
    split <;> simp [String.toList_append]
  have plain : '\\' ∉ (if found.skipped then " DISABLED_" else " ").toList := by
    split <;> decide
  rw [GoesOn, shown, splices_append (by decide), splices_append_cons (by decide) (by decide),
    splices_enclosed plain (by decide) (by decide) (by decide)]

/-- A comment goes on in the next line just if its title joins lines or a line of the output hides a
backslash. -/
theorem exists_goesOn_commentBlock {opening body output : String} (plain : '\\' ∉ opening.toList) :
    (∃ line ∈ commentBlock (opening ++ body ++ ":") output, GoesOn line) ↔
      Splices body.toList ∨ ∃ line ∈ Text.lines output.toList, HidesBackslash line := by
  have title : ("// " ++ (opening ++ body ++ ":")).toList ++ ['\n'] =
      ("// ".toList ++ opening.toList) ++ (body.toList ++ ':' :: ['\n']) := by
    simp [String.toList_append]
  have marked : '\\' ∉ "// ".toList ++ opening.toList :=
    fun member => (List.mem_append.mp member).elim (by decide) plain
  rw [commentBlock, List.exists_mem_cons_iff, GoesOn, title,
    splices_enclosed marked (by decide) (by decide) (by decide)]
  simp only [List.mem_map, exists_exists_and_eq_and]
  refine or_congr_right (exists_congr fun line => and_congr_right fun listed => ?_)
  -- No line of the output holds a line feed, so no line of the comment does.
  have single : '\n' ∉ (commentLine line).toList := fun feed => by
    have kept := LineReading.allBreaks.keeps_commentLine (exists_context_of_mem_lines listed).1
    exact absurd (kept '\n' feed) (by decide)
  rw [GoesOn, splices_feed single, continues_commentLine]

/-- The lines for a failed case go on in others just if its output is shown and its name joins lines
or a line of the output hides a backslash. -/
theorem exists_goesOn_failureSection : (∃ line ∈ failureSection name earlier found, GoesOn line) ↔
    ∃ run, found.compilation = some run ∧ IsUnshown earlier run ∧
      (Splices found.testCase.name.toList ∨
        ∃ line ∈ Text.lines run.output.output.toList, HidesBackslash line) := by
  have directive : ¬ GoesOn (failureDirective name found) := not_goesOn_errorLine _
  rw [failureSection, List.exists_mem_cons_iff, or_iff_right directive, outputLines]
  cases judged : found.compilation with
  | none => simp
  | some run =>
    dsimp only
    split
    next unshown =>
      simp only [Option.some.injEq, exists_eq_left', unshown, true_and]
      exact exists_goesOn_commentBlock (by decide)
    next shown => simpa using fun same => absurd same shown

/-- The ways in which a line of a generated test goes on in the next one. -/
inductive JoinsLines (result : FragmentResult) (header : String) (suite : Option String) : Prop
  /-- The path holds a backslash at the end of a line. -/
  | path (splices : Splices (toString result.path).toList)
  /-- The header does. -/
  | header (passed : result.passed = true) (splices : Splices header.toList)
  /-- The suite is given and does. -/
  | suite {name : String} (passed : result.passed = true) (some_case : result.cases ≠ [])
    (given : suite = some name) (splices : Splices name.toList)
  /-- The name of a case does. -/
  | test {found : CaseResult} (passed : result.passed = true) (listed : found ∈ result.cases)
    (splices : Splices found.testCase.name.toList)
  /-- The name of a failed case whose output is shown does. -/
  | title {earlier later : List CaseResult} {found : CaseResult} {run : Compilation}
    (failed : result.passed = false) (listed : failures result = earlier ++ found :: later)
    (judged : found.compilation = some run) (unshown : IsUnshown earlier run)
    (splices : Splices found.testCase.name.toList)
  /-- A line of an output that is shown hides a backslash. -/
  | output {earlier later : List CaseResult} {found : CaseResult} {run : Compilation}
    {line : List Char} (failed : result.passed = false)
    (listed : failures result = earlier ++ found :: later) (judged : found.compilation = some run)
    (unshown : IsUnshown earlier run) (within : line ∈ Text.lines run.output.output.toList)
    (hides : HidesBackslash line)

/-- A line is in the section of a failed case just if it is in that of a case after some others. -/
theorem mem_failureSections {line : String} {cases : List CaseResult} :
    line ∈ (failureSections name cases).flatten ↔ ∃ earlier found later,
      cases = earlier ++ found :: later ∧ line ∈ failureSection name earlier found := by
  rw [List.mem_flatten]
  constructor
  · rintro ⟨part, listed, within⟩
    obtain ⟨index, inside, rfl⟩ := List.mem_mapIdx.mp listed
    exact ⟨cases.take index, cases[index], cases.drop (index + 1), by simp, within⟩
  · rintro ⟨earlier, found, later, rfl, within⟩
    refine ⟨_, List.mem_mapIdx.mpr ⟨earlier.length, by simp, rfl⟩, ?_⟩
    simpa using within

/-- A line that is written for a fragment that passed goes on just if a text in it joins lines. -/
theorem exists_goesOn_renderLines_of_passed (passed : result.passed = true) :
    (∃ line ∈ renderLines result header suite, GoesOn line) ↔ JoinsLines result header suite := by
  rw [renderLines, if_pos passed]
  simp only [List.mem_append, or_and_right, exists_or, exists_goesOn_bannerLines,
    exists_goesOn_includeLines, List.mem_map, exists_exists_and_eq_and, goesOn_testLine,
    splices_suiteName]
  constructor
  · rintro ((path | included) | ⟨found, listed, ⟨name, given, splices⟩ | splices⟩)
    · exact .path path
    · exact .header passed included
    · exact .suite passed (List.ne_nil_of_mem listed) given splices
    · exact .test passed listed splices
  · rintro (path | ⟨_, included⟩ | ⟨_, some_case, given, splices⟩ | ⟨_, listed, splices⟩ |
      ⟨failed, _⟩ | ⟨failed, _⟩)
    · exact .inl (.inl path)
    · exact .inl (.inr included)
    · obtain ⟨found, listed⟩ := List.exists_mem_of_ne_nil _ some_case
      exact .inr ⟨found, listed, .inl ⟨_, given, splices⟩⟩
    · exact .inr ⟨_, listed, .inr splices⟩
    · exact absurd failed (by simp [passed])
    · exact absurd failed (by simp [passed])

/-- A line that is written for another fragment goes on just if a text in it joins lines or an output
that is shown hides a backslash. -/
theorem exists_goesOn_renderLines_of_not_passed (passed : result.passed = false) :
    (∃ line ∈ renderLines result header suite, GoesOn line) ↔ JoinsLines result header suite := by
  have undirected : ¬ ∃ line ∈ errorDirectives result, GoesOn line := by
    rintro ⟨line, member, goesOn⟩
    obtain ⟨message, -, rfl⟩ := List.mem_map.mp member
    exact not_goesOn_errorLine _ goesOn
  rw [renderLines_of_not_passed passed]
  simp only [List.mem_append, or_and_right, exists_or, exists_goesOn_bannerLines,
    mem_failureSections]
  constructor
  · rintro ((path | directive) | ⟨line, ⟨earlier, found, later, listed, within⟩, goesOn⟩)
    · exact .path path
    · exact absurd directive undirected
    · obtain ⟨run, judged, unshown, splices | ⟨line, said, hides⟩⟩ :=
        exists_goesOn_failureSection.mp ⟨line, within, goesOn⟩
      · exact .title passed listed judged unshown splices
      · exact .output passed listed judged unshown said hides
  · rintro (path | ⟨succeeded, _⟩ | ⟨succeeded, _⟩ | ⟨succeeded, _⟩ |
      ⟨_, listed, judged, unshown, splices⟩ | ⟨_, listed, judged, unshown, within, hides⟩)
    · exact .inl (.inl path)
    · exact absurd succeeded (by simp [passed])
    · exact absurd succeeded (by simp [passed])
    · exact absurd succeeded (by simp [passed])
    · obtain ⟨line, member, goesOn⟩ := exists_goesOn_failureSection.mpr
        ⟨_, judged, unshown, .inl splices⟩
      exact .inr ⟨line, ⟨_, _, _, listed, member⟩, goesOn⟩
    · obtain ⟨line, member, goesOn⟩ := exists_goesOn_failureSection.mpr
        ⟨_, judged, unshown, .inr ⟨_, within, hides⟩⟩
      exact .inr ⟨line, ⟨_, _, _, listed, member⟩, goesOn⟩

/-- No line of a generated test goes on in the next one just if no text that gets into it joins lines
and no output that is shown hides a backslash. -/
theorem no_line_continues_iff (result : FragmentResult) (header : String) (suite : Option String) :
    (∀ line ∈ linesOf (render result header suite), ¬ Continues line) ↔
      ¬ JoinsLines result header suite := by
  rw [← not_iff_not]
  push Not
  rw [exists_continues_render_iff]
  cases passed : result.passed with
  | true => exact exists_goesOn_renderLines_of_passed passed
  | false => exact exists_goesOn_renderLines_of_not_passed passed

end

namespace Swallowing

/-- A failed case whose compiler run printed a text. -/
def found (name : String) (serial : Nat) (printed : String) : CaseResult :=
  ⟨⟨name, ⟨1, 1⟩, [], true, none⟩, .unexpectedSuccess, .zero, none,
    some ⟨serial, ⟨["c++"], some 0, printed, .zero, [], false, false⟩⟩, "accepted"⟩

/-- A fragment with two failed cases; the output of the first one hides a backslash. -/
def outcome : FragmentResult :=
  ⟨.ofParts ["a.nc"], "a.nc", none, [found "A" 0 "x \\ \\", found "B" 1 ""], none, none⟩

end Swallowing

/-- A comment swallows the directive after it if its output hides a backslash. -/
theorem line_continues_after_hidden_backslash :
    ¬ ∀ line ∈ linesOf (render Swallowing.outcome "" none), ¬ Continues line := by
  have hides : HidesBackslash "x \\ \\".toList :=
    ⟨"x ".toList, [' '], ['\\'], [], by simp [AllBlank, isBlank], by simp, by simp, by simp,
      by simp [AllBlank], rfl⟩
  have said : "x \\ \\".toList ∈ Text.lines "x \\ \\".toList := by decide
  have listed : failures Swallowing.outcome =
      [] ++ Swallowing.found "A" 0 "x \\ \\" :: [Swallowing.found "B" 1 ""] := by rfl
  -- The section of the first case has the comment with the hidden backslash.
  obtain ⟨line, member, goesOn⟩ : ∃ line ∈ failureSection Swallowing.outcome.name []
      (Swallowing.found "A" 0 "x \\ \\"), GoesOn line :=
    exists_goesOn_failureSection.mpr
      ⟨_, rfl, fun _ member => absurd member List.not_mem_nil, .inr ⟨_, said, hides⟩⟩
  push Not
  refine exists_continues_render_iff.mpr ⟨line, ?_, goesOn⟩
  rw [renderLines_of_not_passed (by decide), List.mem_append]
  exact .inr (mem_failureSections.mpr ⟨_, _, _, listed, member⟩)

end NegativeCompile.Artifact
