import NegativeCompile.Proofs.Dialect.CaseNames
import NegativeCompile.Proofs.Diagnostic.Rendered
import NegativeCompile.Proofs.Dialect.ListLiterals

/-! # Tests that are written

The line that tests a symbol and lists patterns in a comment can be written for every symbol and for
all patterns, whatever characters they hold: the written list stays in one line, and wherever the line
stands, the case that it opens expects the same patterns in the same order (`Guarded.Opens`,
`Guarded.opens_testLine`). -/

namespace NegativeCompile

open Files Text

/-! ## Characters of words -/

/-- No blank belongs to a word. -/
theorem Text.isWordChar_eq_false {c : Char} (blank : isBlank c = true) : isWordChar c = false := by
  have each : ∀ code ∈ [9, 10, 11, 12, 13, 28, 29, 30, 31, 32, 0x85, 0xa0, 0x1680, 0x2000, 0x2001, 0x2002,
      0x2003, 0x2004, 0x2005, 0x2006, 0x2007, 0x2008, 0x2009, 0x200a, 0x2028, 0x2029, 0x202f, 0x205f,
      0x3000], isWordChar (Char.ofNat code) = false := by decide +kernel
  rw [← Char.ofNat_toNat c]
  refine each c.toNat ?_
  simp only [isBlank, Bool.or_eq_true, Bool.and_eq_true, decide_eq_true_eq, beq_iff_eq] at blank
  simp only [List.mem_cons, List.not_mem_nil, or_false]
  omega

/-- No line break belongs to a word. -/
theorem Text.isLineBreak_of_isWordChar {c : Char} (worded : isWordChar c = true) :
    isLineBreak c = false := by
  rw [← Bool.not_eq_true]
  intro breaks
  rw [isWordChar_eq_false (isBlank_of_isLineBreak breaks)] at worded
  cases worded

namespace Guarded

variable {symbol : String} {line comment closing : List Char} {body rest : List (List Char)}
variable {patterns : List String} {path : Path} {number : Nat} {progress : Progress}

/-! ## The line -/

/-- The line that opens a conditional with the test of a symbol, and a comment. -/
def testLine (symbol : String) (comment : List Char) : List Char :=
  "#if defined(".toList ++ (symbol.toList ++ (")  // ".toList ++ comment))

/-- The line of a test is one line if the comment is. -/
theorem unbroken_testLine (symbolic : IsSymbol symbol)
    (unbroken : ∀ c ∈ comment, isLineBreak c = false) :
    ∀ c ∈ testLine symbol comment, isLineBreak c = false := by
  have start : ∀ c ∈ "#if defined(".toList, isLineBreak c = false := unbroken_of_all (by decide)
  have middle : ∀ c ∈ ")  // ".toList, isLineBreak c = false := unbroken_of_all (by decide)
  have worded : ∀ c ∈ symbol.toList, isLineBreak c = false :=
    fun c member => isLineBreak_of_isWordChar (symbolic.worded c member)
  exact List.forall_mem_append.mpr ⟨start, List.forall_mem_append.mpr ⟨worded,
    List.forall_mem_append.mpr ⟨middle, unbroken⟩⟩⟩

/-- No blank stands before a symbol. -/
theorem IsSymbol.trimLeft_append (symbolic : IsSymbol symbol) (rest : List Char) :
    trimLeft (symbol.toList ++ ')' :: rest) = symbol.toList ++ ')' :: rest := by
  cases spelled : symbol.toList with
  | nil => rfl
  | cons c others =>
    have worded : isWordChar c = true := symbolic.worded c (spelled ▸ List.mem_cons_self)
    refine List.dropWhile_cons_of_neg fun blank => ?_
    rw [isWordChar_eq_false blank] at worded
    cases worded

/-- The line of a test starts with the test of its symbol. -/
theorem head?_testLine (symbolic : IsSymbol symbol) (comment : List Char) :
    head? (testLine symbol comment) = some (⟨false, symbol.toList⟩, "  // ".toList ++ comment) := by
  have letters : isWordChar 'i' = true ∧ isWordChar 'f' = true ∧ isWordChar ' ' = false ∧
      isWordChar ')' = false := by decide +kernel
  obtain ⟨letterI, letterF, blank, closing⟩ := letters
  -- Words end at the blank after the directive and at the parenthesis after the symbol.
  have closed : ¬ isWordChar ')' = true := by simp [closing]
  have directive : directive? (testLine symbol comment) = some ("if".toList,
      " defined(".toList ++ (symbol.toList ++ ')' :: ("  // ".toList ++ comment))) := by
    refine directive?_eq_some_iff.mpr ⟨"if defined(".toList ++
      (symbol.toList ++ ')' :: ("  // ".toList ++ comment)), rfl, ?_, ?_⟩
    · simp [trimLeft, isBlank, letterI, letterF, blank]
    · simp [trimLeft, isBlank, letterI, letterF, blank]
  refine head?_eq_some_iff.mpr ⟨_, symbol.toList ++ ')' :: ("  // ".toList ++ comment), directive,
    ?_, rfl, rfl, ?_, ?_, symbolic.fixed⟩
  · simp [trimLeft, isBlank]
  · rw [symbolic.trimLeft_append, List.takeWhile_append_of_pos symbolic.worded,
      List.takeWhile_cons_of_neg closed, List.append_nil]
  · rw [symbolic.trimLeft_append, List.dropWhile_append_of_pos symbolic.worded,
      List.dropWhile_cons_of_neg closed]
    rfl

/-- The line of a test opens a branch of a case, with the comment. -/
theorem guard?_testLine (symbolic : IsSymbol symbol) (comment : List Char) :
    guard? (testLine symbol comment) = some ⟨false, symbol.toList, some (' ' :: comment)⟩ := by
  rw [guard?, head?_testLine symbolic]
  rfl

/-! ## The list -/

/-- A list of texts is read from a comment that holds it, as it is written, after a blank. -/
theorem listLiteral?_writtenInside (texts : List (List Char)) :
    listLiteral? (' ' :: '[' :: Literal.writtenInside texts) =
      some ('[' :: Literal.writtenInside texts) := by
  obtain ⟨body, ends⟩ := Literal.exists_writtenInside texts
  have trimmed : trim (' ' :: ('[' :: body ++ [']'])) = '[' :: body ++ [']'] := by
    have start : trimLeft ('[' :: body ++ [']']) = '[' :: body ++ [']'] := rfl
    have bracket : trimRight [']'] = [']'] := by decide
    rw [trim_cons_of_isBlank (by decide), trim, start]
    exact trimRight_append bracket (List.cons_ne_nil _ _)
  have last : ('[' :: body ++ [']']).getLast? = some ']' := List.getLast?_concat
  rw [ends, ← List.cons_append]
  simp only [listLiteral?, trimmed, last]
  cases body <;> rfl

/-- A written list of patterns lists the patterns. -/
theorem lists_written (unempty : patterns ≠ [])
    (valid : ∀ pattern ∈ patterns, ∃ regex, Regex.read pattern.toList = .ok regex) :
    Lists (some (' ' :: (Datum.list (patterns.map .text)).written.toList)) patterns := by
  refine ⟨⟨_, _, rfl, ?_, Literal.read_written patterns⟩, unempty, valid⟩
  rw [Literal.toList_written]
  exact listLiteral?_writtenInside _

/-! ## The case -/

/-- The branch that a test of a symbol starts. -/
def testBranch (tests : guard? line = some ⟨false, symbol.toList, some comment⟩)
    (lists : Lists (some comment) patterns) (loose : Loose body) : Branch :=
  ⟨.test line _ patterns tests lists, body, loose⟩

/-- The case of the branch that a test of a symbol starts is that of the symbol. -/
theorem case?_testBranch (tests : guard? line = some ⟨false, symbol.toList, some comment⟩)
    (lists : Lists (some comment) patterns) (loose : Loose body) (number : Nat) :
    (testBranch tests lists loose).case? number =
      some (caseOf symbol patterns ⟨number, number + body.length⟩) := by
  simp [testBranch, Branch.case?, Heading.case?]

/-- Wherever a line stands, it is a whole line of the text, tests a symbol and opens the case of the
symbol with some patterns. -/
structure Opens (line : List Char) (symbol : String) (patterns : List String) : Prop where
  /-- The line stays whole if a line feed is put after it. -/
  whole : ∀ rest, lines (line ++ '\n' :: rest) = line :: lines rest
  /-- It is a test of the symbol, with a comment. -/
  tests : ∃ comment, guard? line = some ⟨false, symbol.toList, some comment⟩
  /-- Outside of other conditionals it ends the branch before it, and its case stands for the lines up
  to the one that closes its conditional. -/
  opens : ∀ (path : Path) (number : Nat) (progress : Progress) (body rest : List (List Char))
    (closing : List Char), progress.depth = 0 → Loose body → nesting closing = .closing →
    readLines path number progress (line :: (body ++ closing :: rest)) =
      readLines path (number + body.length + 2)
        ⟨0, false, none, caseOf symbol patterns ⟨number, number + body.length⟩ ::
          (progress.close (number - 1)).cases⟩ rest
  /-- In a text in which conditionals are well nested its case is read between those of the parts of
  the text before and after it. -/
  reads : ∀ (path : Path) (text : String) (before after : List Section) (body : List (List Char))
    (closing : List Char) (number : Nat), Loose body → nesting closing = .closing →
    lines text.toList =
      before.flatMap Section.lines ++ line :: (body ++ closing :: after.flatMap Section.lines) →
    number = 1 + (before.flatMap Section.lines).length →
    parse path text = .ok (Section.cases 1 before ++
      caseOf symbol patterns ⟨number, number + body.length⟩ ::
        Section.cases (number + body.length + 2) after)

/-- What is read from the branch that a test of a symbol starts, up to the line that closes its
conditional, is the case of the symbol. -/
theorem readLines_of_lists (tests : guard? line = some ⟨false, symbol.toList, some comment⟩)
    (lists : Lists (some comment) patterns) (outside : progress.depth = 0) (loose : Loose body)
    (closes : nesting closing = .closing) :
    readLines path number progress (line :: (body ++ closing :: rest)) =
      readLines path (number + body.length + 2)
        ⟨0, false, none, caseOf symbol patterns ⟨number, number + body.length⟩ ::
          (progress.close (number - 1)).cases⟩ rest := by
  have unguarded : guard? closing = none := guard?_eq_none (by simp [closes]) (by simp [closes])
  have length : (testBranch tests lists loose).lines.length = body.length + 1 := rfl
  have own : ended ((testBranch tests lists loose).heading.opened number)
      (number + (body.length + 1) - 1) = [caseOf symbol patterns ⟨number, number + body.length⟩] := by
    rw [← length, ended_opened, case?_testBranch]
    rfl
  change readLines path number progress ((testBranch tests lists loose).lines ++ closing :: rest) = _
  rw [readLines_of_branch _ _ outside (fun continued => by cases continued),
    readLines_cons_of_unguarded unguarded, closes, close_eq, length]
  simp only [Progress.pass, close_eq, own]
  rfl

/-- A line without line breaks that tests a symbol and lists patterns opens the case of the symbol with
the patterns. -/
theorem opens_of_lists (unbroken : ∀ c ∈ line, isLineBreak c = false)
    (tests : guard? line = some ⟨false, symbol.toList, some comment⟩)
    (lists : Lists (some comment) patterns) : Opens line symbol patterns where
  whole := lines_append_feed unbroken
  tests := ⟨comment, tests⟩
  opens _ _ _ _ _ _ := readLines_of_lists tests lists
  reads := by
    intro path text before after body closing number loose closes split first
    have read : readLines path 1 .start (lines text.toList) = .ok ⟨0, false, none,
        (Section.cases (number + body.length + 2) after).reverse ++
          caseOf symbol patterns ⟨number, number + body.length⟩ ::
            ((Section.cases 1 before).reverse ++ [])⟩ := by
      rw [split, readLines_append, Progress.start, readLines_of_sections before [], Except.ok_bind,
        ← first, readLines_of_lists tests lists rfl loose closes]
      exact readLines_of_sections after _
    rw [parse_eq_of_readLines read]
    simp

/-- For every symbol and for all patterns, at least one, there is a line that opens the case of the
symbol with just these patterns: the test of the symbol, and in a comment the list of the patterns as it
is shown inside a message. -/
theorem opens_testLine (symbolic : IsSymbol symbol) (unempty : patterns ≠ [])
    (valid : ∀ pattern ∈ patterns, ∃ regex, Regex.read pattern.toList = .ok regex) :
    Opens (testLine symbol (Datum.list (patterns.map .text)).written.toList) symbol patterns := by
  refine opens_of_lists (unbroken_testLine symbolic ?_) (guard?_testLine symbolic _)
    (lists_written unempty valid)
  rw [Literal.toList_written]
  exact fun c member => isLineBreak_of_isPrintable (Literal.isPrintable_of_mem_writtenInside member)

namespace Sample

/-- Patterns with quotes of both kinds, backslashes, brackets, slashes and characters that are not
shown. -/
def hardPatterns : List String :=
  ["it's // \\[\"\\], ['x]", "\x00\n\\\\#\u200b", "'", "",
    String.ofList [Char.ofNat 0xe0001, '\t', '[', '"', ']']]

/-- The line that lists them. -/
def hardLine : String :=
  "#if defined(DISABLED_NCTEST_é1)  // ['it\\'s // \\\\[\"\\\\], [\\'x]', " ++
    "'\\x00\\n\\\\\\\\#\\u200b', \"'\", '', '\\U000e0001\\t[\"]']"

/-- What is tested is a symbol. -/
theorem isSymbol_hard : IsSymbol "DISABLED_NCTEST_é1" where
  fixed := by decide +kernel
  worded := List.all_eq_true.mp (by decide +kernel)

/-- All of them are patterns. -/
theorem exists_read_hardPatterns :
    ∀ pattern ∈ hardPatterns, ∃ regex, Regex.read pattern.toList = .ok regex := by
  have reads : (hardPatterns.all fun pattern => (Regex.read pattern.toList).toOption.isSome) = true := by
    decide +kernel
  intro pattern member
  obtain ⟨regex, read⟩ := Option.isSome_iff_exists.mp (List.all_eq_true.mp reads pattern member)
  exact ⟨regex, Except.eq_ok_of_toOption read⟩

/-- The line is that of the symbol and the patterns. -/
theorem testLine_hard :
    testLine "DISABLED_NCTEST_é1" (Datum.list (hardPatterns.map .text)).written.toList =
      hardLine.toList := by
  rw [Literal.toList_written]
  decide +kernel

end Sample

/-- The patterns are read from a text in which the line stands between others, with a conditional before
the line that closes its own one. -/
theorem opens_testLine_hard :
    (∃ comment, guard? Sample.hardLine.toList =
      some ⟨false, "DISABLED_NCTEST_é1".toList, some comment⟩) ∧
    parse (.ofParts ["a.nc"]) ("x\n" ++ Sample.hardLine ++ "\n#if 1\n#endif\n#endif\n") =
      .ok [caseOf "DISABLED_NCTEST_é1" Sample.hardPatterns ⟨2, 4⟩] := by
  have opens : Opens Sample.hardLine.toList "DISABLED_NCTEST_é1" Sample.hardPatterns := by
    rw [← Sample.testLine_hard]
    exact opens_testLine Sample.isSymbol_hard (by decide) Sample.exists_read_hardPatterns
  have before : Loose ["x".toList] := .plain (by decide) .nil
  have closes : nesting "#endif".toList = .closing := by decide +kernel
  have body : Loose ("#if 1".toList :: [] ++ ["#endif".toList]) :=
    .conditional (by decide +kernel) (by decide +kernel) .nil closes .nil
  have split : lines ("x\n" ++ Sample.hardLine ++ "\n#if 1\n#endif\n#endif\n").toList =
      ["x".toList, Sample.hardLine.toList, "#if 1".toList, "#endif".toList, "#endif".toList] := by
    decide +kernel
  exact ⟨opens.tests, opens.reads _ _ [.plain _ before] [] _ _ 2 body closes split rfl⟩

end Guarded

end NegativeCompile
