import NegativeCompile.Proofs.Guarded.Detecting
import NegativeCompile.Proofs.Job.Keys
import NegativeCompile.Proofs.Inline.Markers
import NegativeCompile.Dialect.Header

/-! # Cases that are read

Every case that a dialect reads comes from a line of the fragment (`Guarded.isRead_of_parse`,
`Inline.isRead_of_parse`, `Header.isRead_of_parse`). A case that is compiled alone gives its name to
the files of its job: in a guarded fragment every name of a case is the name of a file, and no case of
the other dialects is compiled alone, whatever its name is (`Fragment.hasNames_of_parse`). All cases
cover lines of their fragments, the first line being the first (`Fragment.isProper_of_parse`). -/

namespace NegativeCompile

open Files Text

variable {path : Path} {number total : Nat} {text : String} {cases more : List TestCase}
variable {line : List Char} {lines : List (List Char)}

/-! ## Guarded fragments -/

namespace Guarded

variable {symbol : String} {guard : Guard} {progress next reached : Progress} {kind : Nesting}

/-- A text is a symbol of a case: a word with the fixed parts and more. -/
structure IsSymbol (symbol : String) : Prop where
  /-- It has the fixed parts and more. -/
  fixed : isSymbol symbol.toList = true
  /-- It is a word. -/
  worded : ∀ c ∈ symbol.toList, isWordChar c = true

/-- The symbol of a line that opens a branch of a case is a symbol. -/
theorem isSymbol_of_guard? (reads : guard? line = some guard) :
    IsSymbol (String.ofList guard.symbol) := by
  obtain ⟨after, starts⟩ := head?_of_guard? reads
  obtain ⟨afterWord, inside, -, -, -, -, taken, -, fixed⟩ := head?_eq_some_iff.mp starts
  refine ⟨by rwa [String.toList_ofList], fun c member => ?_⟩
  rw [String.toList_ofList] at member
  dsimp only at taken
  rw [taken] at member
  exact List.mem_takeWhile_imp member

/-- The name of the case of a symbol is the name of a file. -/
theorem IsSymbol.isName_caseName (symbolic : IsSymbol symbol) : IsName (caseName symbol) := by
  have fixed := symbolic.fixed
  simp only [isSymbol, Bool.and_eq_true, decide_eq_true_eq] at fixed
  unfold caseName isDisabled
  split at fixed
  next disabled =>
    rw [if_pos disabled]
    refine isName_of_isWordChar (List.ne_nil_of_length_pos (Nat.zero_lt_of_lt fixed.2)) ?_
    exact fun c member => symbolic.worded c (List.mem_of_mem_drop member)
  next enabled =>
    rw [if_neg enabled, ← String.ofList_toList (s := symbol)]
    exact isName_of_isWordChar (List.ne_nil_of_length_pos (Nat.zero_lt_of_lt fixed.2)) symbolic.worded

/-- A case was opened by a line of a fragment that tests its symbol. -/
structure OpensCase (path : Path) (opened : OpenCase) : Prop where
  /-- Its start is the number of a line. -/
  counted : 1 ≤ opened.start
  /-- There is such a line: its symbol is that of the case, whose patterns it lists. -/
  exists_guard : ∃ line guard, guard? line = some guard ∧
    String.ofList guard.symbol = opened.symbol ∧
      readPatterns path opened.start opened.symbol guard.comment = .ok opened.patterns

/-- A case was opened by a line and ended at another one. -/
def IsRead (path : Path) (testCase : TestCase) : Prop :=
  ∃ opened last, OpensCase path opened ∧ testCase = opened.finish last

/-- The cases of a fragment so far were opened by lines of it, and so was the open case. -/
structure Progress.Sound (path : Path) (progress : Progress) : Prop where
  /-- The open case was opened by a line. -/
  current : ∀ opened, progress.current = some opened → OpensCase path opened
  /-- The other cases were ended, too. -/
  cases : ∀ testCase ∈ progress.cases, IsRead path testCase

/-- Ending a branch keeps progress sound. -/
theorem sound_close (sound : progress.Sound path) (last : Nat) : (progress.close last).Sound path := by
  unfold Progress.close
  cases current : progress.current with
  | none => exact sound
  | some opened =>
    refine ⟨fun other none => (by cases none), fun testCase member => ?_⟩
    rcases List.mem_cons.mp member with rfl | earlier
    · exact ⟨opened, last, sound.current opened current, rfl⟩
    · exact sound.cases testCase earlier

/-- A line that opens no branch of a case keeps progress sound. -/
theorem sound_pass (sound : progress.Sound path) (number : Nat) (kind : Nesting) :
    (progress.pass number kind).Sound path := by
  have closed := sound_close sound (number - 1)
  rcases progress.pass_cases number kind with ⟨current, cases⟩ | ⟨current, cases⟩
  · exact ⟨current ▸ sound.current, cases ▸ sound.cases⟩
  · exact ⟨current ▸ closed.current, cases ▸ closed.cases⟩

/-- A line keeps progress sound. -/
theorem sound_step (sound : progress.Sound path) (counted : 1 ≤ number)
    (stepped : progress.step path number line = .ok next) : next.Sound path := by
  rcases progress.step_cases path number line with ⟨guard, reads, opens⟩ | passes
  · rw [opens] at stepped
    obtain ⟨-, patterns, listed, rfl⟩ := Progress.openBranch_eq_ok_iff.mp stepped
    refine ⟨fun opened current => ?_, (sound_close sound _).cases⟩
    cases current
    exact ⟨counted, line, guard, reads, rfl, listed⟩
  · rw [← Except.ok.inj (passes.symm.trans stepped)]
    exact sound_pass sound number _

/-- Lines keep progress sound. -/
theorem sound_readLines (sound : progress.Sound path) (counted : 1 ≤ number)
    (read : readLines path number progress lines = .ok reached) : reached.Sound path := by
  induction lines generalizing number progress with
  | nil => exact Except.ok.inj read ▸ sound
  | cons line rest ih =>
    obtain ⟨next, stepped, others⟩ := Except.bind_eq_ok_iff.mp read
    exact ih (sound_step sound counted stepped) (Nat.le_succ_of_le counted) others

/-- Every case of a guarded fragment was opened by one of its lines and ended at another. -/
theorem isRead_of_parse (read : parse path text = .ok cases) :
    ∀ testCase ∈ cases, IsRead path testCase := by
  obtain ⟨progress, reads, closed⟩ := Except.bind_eq_ok_iff.mp read
  have sound : progress.Sound path :=
    sound_readLines ⟨fun opened none => (by cases none),
      fun _ member => absurd member List.not_mem_nil⟩ (Nat.le_refl 1) reads
  cases current : progress.current with
  | some opened =>
    rw [current] at closed
    cases closed
  | none =>
    rw [current] at closed
    rw [← Except.ok.inj closed]
    exact fun testCase member => sound.cases testCase (List.mem_reverse.mp member)

/-- The names of the cases of a guarded fragment are names of files. -/
theorem isName_of_parse (read : parse path text = .ok cases) :
    ∀ testCase ∈ cases, IsName testCase.name := by
  intro testCase member
  obtain ⟨opened, last, opens, rfl⟩ := isRead_of_parse read testCase member
  obtain ⟨line, guard, reads, symbol, -⟩ := opens.exists_guard
  have symbolic : IsSymbol opened.symbol := symbol ▸ isSymbol_of_guard? reads
  exact symbolic.isName_caseName

end Guarded

/-! ## Fragments that are compiled once -/

/-- No case of a fragment with inline markers is compiled alone. -/
theorem Inline.guard_eq_none_of_parse (read : Inline.parse path text = .ok cases) :
    ∀ testCase ∈ cases, testCase.guard = none := by
  intro testCase member
  obtain ⟨_, -, _, _, _, _, -, -, one⟩ := Inline.isRead_of_parse read testCase member
  obtain ⟨_, _, -, -, -, rfl⟩ := Inline.exists_of_readCase one
  rfl

namespace Header

/-- A case is that of a pattern in a line of a header. -/
def IsRead (testCase : TestCase) : Prop :=
  ∃ number earlier pattern, 1 ≤ number ∧ testCase = caseOf number earlier pattern

/-- Lines of a header add the cases of their patterns, which are read. -/
theorem exists_of_mem_readLines {earlier : Nat}
    (read : readLines path number earlier lines = .ok cases) :
    ∀ testCase ∈ cases, ∃ later between pattern regex, number ≤ later ∧
      Regex.read pattern = .ok regex ∧ testCase = caseOf later between pattern := by
  induction lines generalizing number earlier cases with
  | nil =>
    rw [← Except.ok.inj read]
    exact fun _ member => absurd member List.not_mem_nil
  | cons line rest ih =>
    rw [readLines] at read
    split at read
    · -- A blank line is passed over, and any other one without a pattern ends the header.
      split at read
      · intro testCase member
        obtain ⟨later, between, pattern, regex, after, stands⟩ := ih read testCase member
        exact ⟨later, between, pattern, regex, Nat.le_of_succ_le after, stands⟩
      · rw [← Except.ok.inj read]
        exact fun _ member => absurd member List.not_mem_nil
    next pattern _ =>
      split at read
      next regex reads =>
        obtain ⟨others, onward, equal⟩ := Except.bind_eq_ok_iff.mp read
        rw [← Except.ok.inj equal]
        intro testCase member
        rcases List.mem_cons.mp member with rfl | member
        · exact ⟨number, earlier, pattern, regex, Nat.le_refl number, reads, rfl⟩
        · obtain ⟨later, between, pattern, regex, after, stands⟩ := ih onward testCase member
          exact ⟨later, between, pattern, regex, Nat.le_of_succ_le after, stands⟩
      · split at read <;> cases read

/-- Every case of a header is that of a pattern in one of its lines. -/
theorem isRead_of_parse (read : parse path text = .ok cases) :
    ∀ testCase ∈ cases, IsRead testCase := by
  intro testCase member
  obtain ⟨later, between, pattern, _, counted, -, same⟩ := exists_of_mem_readLines read testCase member
  exact ⟨later, between, pattern, counted, same⟩

/-- No case of a header is compiled alone. -/
theorem guard_eq_none_of_parse (read : parse path text = .ok cases) :
    ∀ testCase ∈ cases, testCase.guard = none := by
  intro testCase member
  obtain ⟨_, _, _, -, rfl⟩ := isRead_of_parse read testCase member
  rfl

end Header

/-! ## The lines of cases -/

/-- A span is one of lines: it starts at the first line or later, and it does not end before. -/
structure Span.IsProper (span : Span) : Prop where
  /-- It starts at the first line or later. -/
  starts : 1 ≤ span.first
  /-- It does not end before it starts. -/
  ends : span.first ≤ span.last

/-- A span of one line that is counted is one of lines. -/
theorem Span.isProper_of_line {line : Nat} (counted : 1 ≤ line) :
    Span.IsProper ⟨line, line⟩ :=
  ⟨Int.ofNat_le.mpr counted, Int.le_refl _⟩

/-- The cases of a guarded fragment cover lines. -/
theorem Guarded.isProper_of_parse (read : Guarded.parse path text = .ok cases) :
    ∀ testCase ∈ cases, testCase.span.IsProper := by
  intro testCase member
  obtain ⟨opened, last, opens, rfl⟩ := Guarded.isRead_of_parse read testCase member
  exact ⟨Int.ofNat_le.mpr opens.counted, Int.le_max_left _ _⟩

/-- The cases of a fragment with inline markers cover lines. -/
theorem Inline.isProper_of_parse (read : Inline.parse path text = .ok cases) :
    ∀ testCase ∈ cases, testCase.span.IsProper := by
  intro testCase member
  obtain ⟨_, -, _, _, _, _, counted, -, one⟩ := Inline.isRead_of_parse read testCase member
  obtain ⟨target, _, given, -, -, rfl⟩ := Inline.exists_of_readCase one
  exact Span.isProper_of_line (Inline.counted_of_readTarget counted given)

/-- The cases of a header cover lines. -/
theorem Header.isProper_of_parse (read : Header.parse path text = .ok cases) :
    ∀ testCase ∈ cases, testCase.span.IsProper := by
  intro testCase member
  obtain ⟨_, _, _, counted, rfl⟩ := Header.isRead_of_parse read testCase member
  exact Span.isProper_of_line counted

/-! ## Fragments of known dialects -/

/-- A dialect is one of those that are known here. -/
def Dialect.IsKnown (dialect : Dialect) : Prop :=
  dialect = Guarded.dialect ∨ dialect = Inline.dialect ∨ dialect = Header.dialect

/-- If any case of a fragment is compiled alone, then all of them have the name of a file. -/
def Fragment.HasNames (fragment : Fragment) : Prop :=
  fragment.isGuarded = true → ∀ testCase ∈ fragment.cases, IsName testCase.name

/-- A fragment without cases that are compiled alone is not compiled case by case. -/
theorem Fragment.isGuarded_eq_false {fragment : Fragment}
    (together : ∀ testCase ∈ fragment.cases, testCase.guard = none) :
    fragment.isGuarded = false := by
  rw [Fragment.isGuarded, List.any_eq_false]
  intro testCase member
  rw [together testCase member]
  exact Bool.false_ne_true

/-- What a known dialect reads is the cases that it parses. -/
theorem Fragment.parse_eq_ok_of_select {registry : Registry} {fragment : Fragment} {dialect : Dialect}
    (selected : registry.select text = .ok dialect)
    (read : Fragment.parse registry path text = .ok fragment) :
    dialect.parse path text = .ok fragment.cases := by
  obtain ⟨chosen, again, afterChoice⟩ := Except.bind_eq_ok_iff.mp read
  obtain rfl := Except.ok.inj (selected.symm.trans again)
  obtain ⟨cases, parsed, afterCases⟩ := Except.bind_eq_ok_iff.mp afterChoice
  obtain ⟨-, -, equal⟩ := Except.bind_eq_ok_iff.mp afterCases
  rw [← Except.ok.inj equal]
  exact parsed

/-- What a known dialect reads has names. -/
theorem Fragment.hasNames_of_parse {registry : Registry} {fragment : Fragment} {dialect : Dialect}
    (selected : registry.select text = .ok dialect) (known : dialect.IsKnown)
    (read : Fragment.parse registry path text = .ok fragment) : fragment.HasNames := by
  have parsed := parse_eq_ok_of_select selected read
  intro guarded
  rcases known with rfl | rfl | rfl
  · exact Guarded.isName_of_parse parsed
  · rw [isGuarded_eq_false (Inline.guard_eq_none_of_parse parsed)] at guarded
    cases guarded
  · rw [isGuarded_eq_false (Header.guard_eq_none_of_parse parsed)] at guarded
    cases guarded

/-- The cases that a known dialect reads cover lines. -/
theorem Fragment.isProper_of_parse {registry : Registry} {fragment : Fragment} {dialect : Dialect}
    (selected : registry.select text = .ok dialect) (known : dialect.IsKnown)
    (read : Fragment.parse registry path text = .ok fragment) :
    ∀ testCase ∈ fragment.cases, testCase.span.IsProper := by
  have parsed := parse_eq_ok_of_select selected read
  rcases known with rfl | rfl | rfl
  · exact Guarded.isProper_of_parse parsed
  · exact Inline.isProper_of_parse parsed
  · exact Header.isProper_of_parse parsed

end NegativeCompile
