import NegativeCompile.Proofs.Dialect.CaseNames

/-! # The branches that cases stand for

Whether or not the conditionals of a guarded text are well nested, its cases stand for branches of it
(`Guarded.StandsFor`): each for the lines from the test of its symbol on, up to a line before the next
such test. Reading keeps the cases apart and in the order of the text (`Guarded.Progress.Covers`), so
no case starts within the lines of another one (`Guarded.standsFor_of_parse`). -/

namespace NegativeCompile.Guarded

open Files Text

variable {path : Path} {text : String} {symbol : String} {line : List Char}
variable {lines rest : List (List Char)} {count : Nat} {progress next reached : Progress}
variable {opened : OpenCase} {cases : List TestCase} {testCase : TestCase}

/-! ## Names of cases -/

/-- A symbol is the name of its case, after a fixed part if the case is disabled. -/
theorem toList_eq_caseName (symbol : String) : symbol.toList =
    (if isDisabled symbol then disabledPrefix.toList else []) ++ (caseName symbol).toList := by
  unfold caseName
  split
  next disabled =>
    obtain ⟨rest, split⟩ := List.isPrefixOf_iff_prefix.mp disabled
    rw [String.toList_ofList, ← split, ← String.length_toList, List.drop_left]
  · rfl

/-- The name of the case of a symbol starts with the fixed part of such names. -/
theorem IsSymbol.isPrefix_caseName (symbolic : IsSymbol symbol) :
    casePrefix.toList <+: (caseName symbol).toList := by
  have fixed := symbolic.fixed
  simp only [isSymbol, Bool.and_eq_true] at fixed
  unfold caseName isDisabled
  split at fixed
  next disabled =>
    rw [if_pos disabled, String.toList_ofList]
    exact List.isPrefixOf_iff_prefix.mp fixed.1
  next enabled =>
    rw [if_neg enabled]
    exact List.isPrefixOf_iff_prefix.mp fixed.1

/-! ## Branches -/

/-- A case was opened by the test in the line at which it starts. -/
structure StartsAt (lines : List (List Char)) (opened : OpenCase) : Prop where
  /-- Lines are counted from one. -/
  counted : 1 ≤ opened.start
  /-- The line tests the symbol of the case, whose patterns it lists. -/
  tested : ∃ line guard, lines[opened.start - 1]? = some line ∧ guard? line = some guard ∧
    String.ofList guard.symbol = opened.symbol ∧ Lists guard.comment opened.patterns

/-- A case stands for some lines of a text, the first of which tests its symbol. -/
structure StandsFor (lines : List (List Char)) (testCase : TestCase) : Prop where
  /-- It starts at the first line or later, and it does not end before it starts. -/
  proper : testCase.span.IsProper
  /-- It ends at the last line or before. -/
  inside : testCase.span.last ≤ lines.length
  /-- In its first line there is nothing but the test of a symbol and a comment. The symbol is the
  name of the case, after a fixed part just if the case is disabled. -/
  tested : ∃ line guard, lines[testCase.span.first.toNat - 1]? = some line ∧
    guard? line = some guard ∧
    (guard.symbol = testCase.name.toList ∨
      guard.symbol = disabledPrefix.toList ++ testCase.name.toList) ∧
    (testCase.enabled = true ↔ ¬ disabledPrefix.toList <+: guard.symbol)
  /-- The name has the fixed part that names of cases have. -/
  named : casePrefix.toList <+: testCase.name.toList
  /-- The name is defined when the case is compiled. -/
  guarded : testCase.guard = some testCase.name
  /-- It expects something. -/
  expects : testCase.expectations ≠ []
  /-- It expects errors, wherever they are, in which patterns match. -/
  patterns : ∀ expectation ∈ testCase.expectations, expectation.caseName = testCase.name ∧
    expectation.isRegex = true ∧ expectation.severity = .error ∧ expectation.line = none

/-- A case that is ended at a line of the text stands for the lines up to there. -/
theorem StartsAt.standsFor (starts : StartsAt lines opened) {last : Nat}
    (after : opened.start ≤ last) (inside : last ≤ lines.length) :
    StandsFor lines (opened.finish last) := by
  obtain ⟨line, guard, placed, reads, symbol, lists⟩ := starts.tested
  have symbolic : IsSymbol opened.symbol := symbol ▸ isSymbol_of_guard? reads
  have word : guard.symbol = opened.symbol.toList := by rw [← symbol, String.toList_ofList]
  have spelled := toList_eq_caseName opened.symbol
  have ends : max (opened.start : Int) last = last := by omega
  refine ⟨⟨Int.ofNat_le.mpr starts.counted, Int.le_max_left _ _⟩, ?_, ⟨line, guard, placed, reads, ?_, ?_⟩,
    symbolic.isPrefix_caseName, rfl, ?_, ?_⟩
  · change max (opened.start : Int) last ≤ _
    omega
  · rw [word, spelled]
    split
    · exact .inr rfl
    · exact .inl rfl
  · change (!isDisabled opened.symbol) = true ↔ _
    rw [word, isDisabled, startsWith, ← List.isPrefixOf_iff_prefix, Bool.not_eq_true',
      Bool.not_eq_true]
  · exact fun nothing => lists.unempty (List.map_eq_nil_iff.mp nothing)
  · intro expectation member
    obtain ⟨pattern, -, rfl⟩ := List.mem_map.mp member
    exact ⟨rfl, rfl, rfl, rfl⟩

/-! ## Reading -/

/-- After some lines of a text the cases stand for lines among them, in the order of the text, and the
open case starts after all of them. -/
structure Progress.Covers (lines : List (List Char)) (count : Nat) (progress : Progress) : Prop where
  /-- The open case was opened by one of the lines. -/
  current : ∀ opened, progress.current = some opened →
    StartsAt lines opened ∧ opened.start ≤ count
  /-- It starts after the others. -/
  later : ∀ opened, progress.current = some opened →
    ∀ testCase ∈ progress.cases, testCase.span.last < opened.start
  /-- The cases stand for some of the lines. -/
  cases : ∀ testCase ∈ progress.cases,
    StandsFor lines testCase ∧ testCase.span.last ≤ count
  /-- Each case ends before those that were read after it. -/
  ordered : progress.cases.Pairwise fun later earlier => earlier.span.last < later.span.first

/-- Ending the branch of the open case at the last line that was read keeps the cases in order. -/
theorem covers_close (covers : progress.Covers lines count) (inside : count ≤ lines.length) :
    (progress.close count).Covers lines count := by
  unfold Progress.close
  cases current : progress.current with
  | none => exact covers
  | some opened =>
    obtain ⟨starts, before⟩ := covers.current opened current
    have last : (opened.finish count).span.last = count := by
      change max (opened.start : Int) count = count
      omega
    refine ⟨fun _ none => (by cases none), fun _ none => (by cases none), ?_, ?_⟩
    · intro testCase member
      rcases List.mem_cons.mp member with rfl | earlier
      · exact ⟨starts.standsFor before inside, last.le⟩
      · exact covers.cases testCase earlier
    · exact List.pairwise_cons.mpr ⟨covers.later opened current, covers.ordered⟩

/-- A line that opens no branch of a case keeps the cases in order. -/
theorem covers_pass (covers : progress.Covers lines count) (inside : count ≤ lines.length)
    (kind : Nesting) : (progress.pass (count + 1) kind).Covers lines count := by
  have closed := covers_close covers inside
  rcases progress.pass_cases (count + 1) kind with ⟨current, cases⟩ | ⟨current, cases⟩
  · exact ⟨current ▸ covers.current, current ▸ cases ▸ covers.later, cases ▸ covers.cases,
      cases ▸ covers.ordered⟩
  · exact ⟨current ▸ closed.current, current ▸ cases ▸ closed.later, cases ▸ closed.cases,
      cases ▸ closed.ordered⟩

/-- Cases that stand for some lines stand for some of more lines. -/
theorem Progress.Covers.more (covers : progress.Covers lines count) :
    progress.Covers lines (count + 1) where
  current opened current :=
    let ⟨starts, before⟩ := covers.current opened current
    ⟨starts, Nat.le_succ_of_le before⟩
  later := covers.later
  cases testCase member :=
    let ⟨stands, before⟩ := covers.cases testCase member
    ⟨stands, by omega⟩
  ordered := covers.ordered

/-- The next line keeps the cases in order: if it opens a branch, then it starts after all of them. -/
theorem covers_step (covers : progress.Covers lines count) (placed : lines[count]? = some line)
    (stepped : progress.step path (count + 1) line = .ok next) : next.Covers lines (count + 1) := by
  have inside : count ≤ lines.length := (List.getElem?_eq_some_iff.mp placed).1.le
  rcases progress.step_cases path (count + 1) line with ⟨guard, reads, opens⟩ | passes
  · rw [opens] at stepped
    obtain ⟨-, patterns, listed, rfl⟩ := Progress.openBranch_eq_ok_iff.mp stepped
    have closed := (covers_close covers inside).cases
    refine ⟨fun opened current => ?_, fun opened current testCase member => ?_,
      fun testCase member => ?_, (covers_close covers inside).ordered⟩
    · cases current
      exact ⟨⟨Nat.le_add_left 1 count, line, guard, placed, reads, rfl,
        readPatterns_eq_ok_iff.mp listed⟩, Nat.le_refl _⟩
    · cases current
      exact Int.lt_add_one_iff.mpr (closed testCase member).2
    · obtain ⟨stands, before⟩ := closed testCase member
      exact ⟨stands, by omega⟩
  · rw [← Except.ok.inj (passes.symm.trans stepped)]
    exact (covers_pass covers inside _).more

/-- All lines together keep the cases in order. -/
theorem covers_readLines (covers : progress.Covers lines count) (left : lines.drop count = rest)
    (read : readLines path (count + 1) progress rest = .ok reached) :
    reached.Covers lines (count + rest.length) := by
  induction rest generalizing count progress with
  | nil => exact Except.ok.inj read ▸ covers
  | cons line rest ih =>
    obtain ⟨next, stepped, others⟩ := Except.bind_eq_ok_iff.mp read
    have placed : lines[count]? = some line := by
      rw [← List.head?_drop, left]
      rfl
    have remaining : lines.drop (count + 1) = rest := by
      rw [← List.tail_drop, left]
      rfl
    rw [List.length_cons, Nat.add_comm rest.length, ← Nat.add_assoc]
    exact ih (covers_step covers placed stepped) remaining others

/-- The cases of a text that is read are those of its lines, which keep them in order. -/
theorem covers_of_parse (read : parse path text = .ok cases) :
    ∃ progress : Progress,
      progress.Covers (Text.lines text.toList) (0 + (Text.lines text.toList).length) ∧
        cases = progress.cases.reverse := by
  obtain ⟨progress, reads, closed⟩ := Except.bind_eq_ok_iff.mp read
  have begun : Progress.start.Covers (Text.lines text.toList) 0 :=
    ⟨fun _ none => (by cases none), fun _ none => (by cases none),
      fun _ member => absurd member List.not_mem_nil, .nil⟩
  refine ⟨progress, covers_readLines begun List.drop_zero reads, ?_⟩
  split at closed
  · cases closed
  · exact (Except.ok.inj closed).symm

/-- In whatever way the conditionals of a text are nested, if it is read then its cases stand for lines
of it, each for lines after those of the cases before it, and no case starts within the lines of
another one. -/
theorem standsFor_of_parse (path : Path) (text : String) (read : parse path text = .ok cases) :
    (cases.Pairwise fun earlier later => earlier.span.last < later.span.first) ∧
      (∀ testCase ∈ cases, StandsFor (Text.lines text.toList) testCase) ∧
      ∀ testCase ∈ cases, ∀ other ∈ cases,
        testCase.span.contains other.span.first = true → other = testCase := by
  obtain ⟨progress, covers, rfl⟩ := covers_of_parse read
  have stands : ∀ testCase ∈ progress.cases.reverse,
      StandsFor (Text.lines text.toList) testCase := fun testCase member =>
    (covers.cases testCase (List.mem_reverse.mp member)).1
  have ordered := List.pairwise_reverse.mpr covers.ordered
  refine ⟨ordered, stands, fun testCase member other also within => ?_⟩
  have ends := (stands testCase member).proper.ends
  have otherEnds := (stands other also).proper.ends
  rw [Span.contains, Bool.and_eq_true, decide_eq_true_eq, decide_eq_true_eq] at within
  -- Of two cases at different places one ends before the other one starts.
  obtain ⟨place, placed, rfl⟩ := List.mem_iff_getElem.mp member
  obtain ⟨otherPlace, otherPlaced, rfl⟩ := List.mem_iff_getElem.mp also
  have apart := List.pairwise_iff_getElem.mp ordered
  rcases lt_trichotomy place otherPlace with before | rfl | after
  · have := apart place otherPlace placed otherPlaced before
    omega
  · rfl
  · have := apart otherPlace place otherPlaced placed after
    omega

namespace Sample

/-- A text whose conditionals are not nested well: an end too much, a test in an open chain that opens
another one, and a chain that is left open. -/
def crossed : String :=
  "#endif\n#if defined(NCTEST_A) // ['x', 'y']\n#if 1\n#endif\n" ++
    "#if defined(DISABLED_NCTEST_B) // ['z']\n#else\n"

theorem lists_xy : Lists (some " ['x', 'y']".toList) ["x", "y"] :=
  readPatterns_eq_ok_iff.mp (Except.eq_ok_of_toOption (by cbv) :
    readPatterns (.ofParts []) 2 "NCTEST_A" (some " ['x', 'y']".toList) = .ok ["x", "y"])

theorem lists_z : Lists (some " ['z']".toList) ["z"] :=
  readPatterns_eq_ok_iff.mp (Except.eq_ok_of_toOption (by cbv) :
    readPatterns (.ofParts []) 5 "DISABLED_NCTEST_B" (some " ['z']".toList) = .ok ["z"])

/-- The branch of the first case, with another conditional in it. -/
def upper : Branch where
  heading := .test "#if defined(NCTEST_A) // ['x', 'y']".toList
    ⟨false, "NCTEST_A".toList, some " ['x', 'y']".toList⟩ ["x", "y"] (by decide +kernel) lists_xy
  body := "#if 1".toList :: [] ++ "#endif".toList :: []
  loose := .conditional (by decide +kernel) (by decide +kernel) .nil closes .nil

/-- The branch of the second case. -/
def lower : Branch where
  heading := .test "#if defined(DISABLED_NCTEST_B) // ['z']".toList
    ⟨false, "DISABLED_NCTEST_B".toList, some " ['z']".toList⟩ ["z"] (by decide +kernel) lists_z
  body := []
  loose := .nil

/-- The branch that is left open. -/
def last : Branch := ⟨third.heading, [], .nil⟩

/-- The cases of the text are read. -/
theorem parse_crossed : parse (.ofParts ["a.nc"]) crossed =
    .ok [caseOf "NCTEST_A" ["x", "y"] ⟨2, 4⟩, caseOf "DISABLED_NCTEST_B" ["z"] ⟨5, 5⟩] := by
  have split : Text.lines crossed.toList =
      "#endif".toList :: (upper.lines ++ (lower.lines ++ (last.lines ++ []))) := by decide +kernel
  have unguarded : guard? "#endif".toList = none := by decide +kernel
  rw [parse, split, readLines_cons_of_unguarded unguarded, closes,
    readLines_of_branch upper _ rfl (by decide), readLines_of_branch lower _ rfl (by decide),
    readLines_of_branch last _ rfl fun _ => rfl]
  rfl

end Sample

/-- In the text that is not nested well the cases stand for three lines and for one line. -/
theorem standsFor_crossed :
    let cases := [caseOf "NCTEST_A" ["x", "y"] ⟨2, 4⟩, caseOf "DISABLED_NCTEST_B" ["z"] ⟨5, 5⟩]
    parse (.ofParts ["a.nc"]) Sample.crossed = .ok cases ∧
      (cases.Pairwise fun earlier later => earlier.span.last < later.span.first) ∧
      (∀ testCase ∈ cases, StandsFor (Text.lines Sample.crossed.toList) testCase) ∧
      ∀ testCase ∈ cases, ∀ other ∈ cases,
        testCase.span.contains other.span.first = true → other = testCase :=
  ⟨Sample.parse_crossed, standsFor_of_parse _ _ Sample.parse_crossed⟩

end NegativeCompile.Guarded
