import NegativeCompile.Proofs.Dialect.CaseNames
import NegativeCompile.Proofs.Verdict.Reordering
import NegativeCompile.Proofs.Verdict.Tractable

/-! # Searching for patterns that were read

Every pattern that a fragment expects was read when the fragment was (`Fragment.isSearchable_of_parse`),
so no search fails because its pattern is none. What is left that can keep verdicts from being given: a
match in which a group ends before it starts (`Expectation.Crosses`), and names of files that cannot be
resolved (`judged_of_parse`). There are patterns that are read and such matches of them
(`no_verdict_on_crossing`). -/

namespace NegativeCompile

open Files Text

section

variable {surroundings : Surroundings} {workdir : Option Path} {path : Path} {fragment : Fragment}
variable {testCase : TestCase} {output : CompileOutput} {text : String} {cases : List TestCase}
variable {expectation : Expectation} {expectations : List Expectation} {message : String}
variable {diagnostic : Diagnostic} {diagnostics here : List Diagnostic} {allowed : Failure → Prop}
variable {number total earlier : Nat} {lines : List (List Char)}

/-! ## Patterns that are read -/

namespace Expectation

/-- What is expected can be searched for: if it is a pattern, it can be read as one. -/
def IsSearchable (expectation : Expectation) : Prop :=
  expectation.isRegex = true → ∃ pattern, Regex.read expectation.text.toList = .ok pattern

/-- A pattern is expected, and the match of it that is found in a message has a group that ends before
it starts. -/
structure Crosses (expectation : Expectation) (message : String) : Prop where
  /-- A pattern is expected. -/
  isRegex : expectation.isRegex = true
  /-- Its match has such a group. -/
  crossed : ∃ pattern, Regex.read expectation.text.toList = .ok pattern ∧
    pattern.findIn message.toList = .crossed

/-- Only a pattern with groups can have such a match. -/
theorem Crosses.exists_groups (crosses : expectation.Crosses message) :
    ∃ pattern, Regex.read expectation.text.toList = .ok pattern ∧ 0 < pattern.groups := by
  obtain ⟨-, pattern, read, crossed⟩ := crosses
  refine ⟨pattern, read, Nat.pos_of_ne_zero fun none => ?_⟩
  unfold Regex.Pattern.findIn at crossed
  dsimp only at crossed
  split at crossed
  · cases crossed
  · rw [none, List.range_zero, List.any_nil, if_neg Bool.false_ne_true] at crossed
    cases crossed

/-- A search for what can be searched for fails only if the groups of a match cross. -/
theorem IsSearchable.failsOnly_matchesText (searchable : expectation.IsSearchable) (message : String) :
    Except.FailsOnly (fun failure => failure = crossedGroup ∧ expectation.Crosses message)
      (expectation.matchesText message) := by
  unfold matchesText
  split
  next regex =>
    obtain ⟨pattern, read⟩ := searchable regex
    simp only [read]
    split
    · exact .ok false
    · exact .ok true
    next crossed => exact .error ⟨rfl, regex, pattern, read, crossed⟩
  next literal => exact .ok _

/-- The same holds of the search in the message of a diagnostic. -/
theorem IsSearchable.failsOnly_accepts (searchable : expectation.IsSearchable)
    (diagnostic : Diagnostic) :
    Except.FailsOnly (fun failure => failure = crossedGroup ∧ expectation.Crosses diagnostic.message)
      (expectation.accepts diagnostic) := by
  unfold accepts
  split
  · exact .ok false
  · split
    · exact .ok false
    · exact searchable.failsOnly_matchesText diagnostic.message

end Expectation

/-- What a case expects can be searched for. -/
def TestCase.IsSearchable (testCase : TestCase) : Prop :=
  ∀ expectation ∈ testCase.expectations, expectation.IsSearchable

/-- The patterns of a guarded fragment were read. -/
theorem Guarded.isSearchable_of_parse (read : Guarded.parse path text = .ok cases) :
    ∀ testCase ∈ cases, testCase.IsSearchable := by
  intro testCase member expectation expected _
  obtain ⟨opened, last, opens, rfl⟩ := Guarded.isRead_of_parse read testCase member
  obtain ⟨line, guard, -, -, listed⟩ := opens.exists_guard
  obtain ⟨pattern, among, rfl⟩ := List.mem_map.mp expected
  exact (Guarded.readPatterns_eq_ok_iff.mp listed).valid pattern among

namespace Inline

/-- What passes the check is a pattern. -/
theorem exists_read_of_checkPattern {pattern : List Char}
    (checked : checkPattern path number pattern = .ok ()) :
    ∃ regex, Regex.read pattern = .ok regex := by
  unfold checkPattern at checked
  split at checked
  next regex read => exact ⟨regex, read⟩
  · split at checked <;> cases checked

/-- If the message of a marker is a pattern it was read. -/
theorem isSearchable_of_readCase {marker : Marker}
    (read : readCase path number total cases marker = .ok testCase) : testCase.IsSearchable := by
  obtain ⟨target, name, -, -, said, rfl⟩ := exists_of_readCase read
  intro expectation expected regex
  rw [List.mem_singleton.mp expected] at regex ⊢
  obtain ⟨_, -, afterTarget⟩ := Except.bind_eq_ok_iff.mp read
  have unempty : ¬ (trim marker.message).isEmpty = true := by simpa using said
  have pattern : marker.isRegex = true := regex
  simp only [if_neg unempty, if_pos pattern] at afterTarget
  obtain ⟨_, checked, -⟩ := Except.bind_eq_ok_iff.mp afterTarget
  rw [String.toList_ofList]
  exact exists_read_of_checkPattern checked

/-- The patterns of a fragment with inline markers were read. -/
theorem isSearchable_of_parse (read : parse path text = .ok cases) :
    ∀ testCase ∈ cases, testCase.IsSearchable := by
  intro testCase member
  obtain ⟨_, -, _, _, _, _, -, -, one⟩ := isRead_of_parse read testCase member
  exact isSearchable_of_readCase one

end Inline

/-- The patterns in the lines of a header were read. -/
theorem Header.isSearchable_of_readLines
    (read : Header.readLines path number earlier lines = .ok cases) :
    ∀ testCase ∈ cases, testCase.IsSearchable := by
  intro testCase member
  obtain ⟨_, _, _, regex, -, reads, rfl⟩ := exists_of_mem_readLines read testCase member
  intro expectation expected _
  rw [List.mem_singleton.mp expected, String.toList_ofList]
  exact ⟨regex, reads⟩

/-- The patterns of a fragment that a known dialect reads were read. -/
theorem Fragment.isSearchable_of_parse {registry : Registry} {dialect : Dialect}
    (selected : registry.select text = .ok dialect) (known : dialect.IsKnown)
    (read : Fragment.parse registry path text = .ok fragment) :
    ∀ testCase ∈ fragment.cases, testCase.IsSearchable := by
  have parsed := parse_eq_ok_of_select selected read
  rcases known with rfl | rfl | rfl
  · exact Guarded.isSearchable_of_parse parsed
  · exact Inline.isSearchable_of_parse parsed
  · exact Header.isSearchable_of_readLines parsed

/-! ## Why verdicts are not given -/

namespace Surroundings

/-- A path fails to be resolved only for a reason of its own. -/
theorem failsOnly_resolve (surroundings : Surroundings) (path : Path) :
    Except.FailsOnly (∃ problem, · = Failure.ofResolveProblem problem)
      (surroundings.resolve path) := by
  unfold resolve
  split
  · exact .ok _
  next problem _ => exact .error ⟨problem, rfl⟩

/-- A name of a file fails to be told from that of a fragment only if a path fails to be resolved. -/
theorem failsOnly_sameFile (surroundings : Surroundings) (reported : String) (path : Path)
    (workdir : Option Path) :
    Except.FailsOnly (∃ problem, · = Failure.ofResolveProblem problem)
      (surroundings.sameFile reported path workdir) := by
  unfold sameFile
  dsimp only
  generalize Path.ofString (reported.map fun c => if c = '\\' then '/' else c) = name
  -- What follows the comparison of the paths is the same with and without a directory.
  have guesses (ledThere : Bool) : Except.FailsOnly (∃ problem, · = Failure.ofResolveProblem problem)
      (if ledThere then pure true
        else if name.parts.isEmpty || name.parts.contains ".." then pure (name.name == path.name)
        else do
          let target ← surroundings.resolve path
          pure (name.parts.isSuffixOf target.allParts)) := by
    split
    · exact .ok true
    · split
      · exact .ok _
      · exact (failsOnly_resolve surroundings path).bind fun _ _ => .ok _
  by_cases absolute : (name.isAbsolute || reported.startsWith "/") = true
  · rw [if_pos absolute]
    exact (failsOnly_resolve surroundings path).bind fun _ _ => .ok _
  · rw [if_neg absolute]
    cases workdir with
    | none => exact guesses false
    | some directory =>
      refine (failsOnly_resolve surroundings _).bind fun candidate _ => ?_
      exact (failsOnly_resolve surroundings path).bind fun target _ => guesses _

end Surroundings

namespace Verdict

/-- Looking for the first line that an expectation matches fails only as matching a line does. -/
theorem failsOnly_firstRendered (matching : ∀ diagnostic ∈ diagnostics,
      Except.FailsOnly allowed (expectation.matchesText diagnostic.render)) :
    Except.FailsOnly allowed (firstRendered expectation diagnostics) := by
  induction diagnostics with
  | nil => exact .ok none
  | cons diagnostic rest ih =>
    obtain ⟨first, others⟩ := List.forall_mem_cons.mp matching
    refine first.bind fun found _ => ?_
    split
    · exact .ok _
    · exact ih others

/-- Judging a case by itself fails only as matching the output or a line of a diagnostic does. -/
theorem failsOnly_judgeSingle
    (matching : ∀ expectation ∈ testCase.expectations,
      Except.FailsOnly allowed (expectation.matchesText output.output) ∧
        ∀ diagnostic ∈ output.diagnostics,
          Except.FailsOnly allowed (expectation.matchesText diagnostic.render)) :
    Except.FailsOnly allowed (judgeSingle testCase output) := by
  have searches : Except.FailsOnly allowed (search output testCase.expectations) := by
    -- The search goes through the expectations one by one, and so does the induction.
    generalize testCase.expectations = expectations at matching
    induction expectations with
    | nil => exact .ok _
    | cons expectation rest ih =>
      obtain ⟨⟨whole, lines⟩, others⟩ := List.forall_mem_cons.mp matching
      refine whole.bind fun found _ => ?_
      split
      · refine (failsOnly_firstRendered lines).bind fun hit _ => ?_
        exact (ih others).bind fun sorted _ => .ok _
      · exact (ih others).bind fun sorted _ => .ok _
  unfold judgeSingle
  split
  · exact .ok _
  · split
    · exact .ok _
    · exact searches.bind fun sorted _ => .ok _

/-- Why verdicts on the cases of a whole fragment are not given. -/
inductive WholeFailure (surroundings : Surroundings) (workdir : Option Path) (fragment : Fragment)
    (output : CompileOutput) : Failure → Prop where
  /-- A file that is named cannot be told from that of the fragment: a path cannot be resolved. -/
  | file (diagnostic : Diagnostic) (named : diagnostic ∈ output.diagnostics) (problem : ResolveProblem)
    (untold : surroundings.sameFile diagnostic.file fragment.path workdir =
      .error (.ofResolveProblem problem)) :
    WholeFailure surroundings workdir fragment output (.ofResolveProblem problem)
  /-- The groups of a match in a message cross. -/
  | crossing (testCase : TestCase) (enabled : testCase ∈ fragment.enabledCases)
    (expectation : Expectation) (expected : expectation ∈ testCase.expectations)
    (diagnostic : Diagnostic) (given : diagnostic ∈ output.diagnostics)
    (crosses : expectation.Crosses diagnostic.message) :
    WholeFailure surroundings workdir fragment output Expectation.crossedGroup

/-- Why a verdict on a case by itself is not given: the groups of a match cross, in all that the compiler
printed or in the line of a diagnostic. -/
inductive SingleFailure (testCase : TestCase) (output : CompileOutput) : Failure → Prop where
  /-- They cross in all that was printed. -/
  | output (expectation : Expectation) (expected : expectation ∈ testCase.expectations)
    (crosses : expectation.Crosses output.output) :
    SingleFailure testCase output Expectation.crossedGroup
  /-- They cross in the line of a diagnostic. -/
  | line (expectation : Expectation) (expected : expectation ∈ testCase.expectations)
    (diagnostic : Diagnostic) (given : diagnostic ∈ output.diagnostics)
    (crosses : expectation.Crosses diagnostic.render) :
    SingleFailure testCase output Expectation.crossedGroup

/-- If the patterns of a fragment were read, there are verdicts on its cases, or a reason why not. -/
theorem failsOnly_judgeWhole_of_isSearchable
    (searchable : ∀ testCase ∈ fragment.cases, testCase.IsSearchable) :
    Except.FailsOnly (WholeFailure surroundings workdir fragment output)
      (judgeWhole surroundings fragment output workdir) := by
  refine failsOnly_judgeWhole (fun _ _ diagnostic named failure fails => ?_)
    fun _ _ testCase enabled expectation expected diagnostic given failure fails => ?_
  · obtain ⟨problem, rfl⟩ := surroundings.failsOnly_sameFile _ _ _ failure fails
    exact .file diagnostic named problem fails
  · have readable := searchable testCase (List.mem_filter.mp enabled).1 expectation expected
    obtain ⟨rfl, crosses⟩ := readable.failsOnly_accepts diagnostic failure fails
    exact .crossing testCase enabled expectation expected diagnostic given crosses

/-- If the patterns of a case were read, there is a verdict on it, or a reason why not. -/
theorem failsOnly_judgeSingle_of_isSearchable (searchable : testCase.IsSearchable) :
    Except.FailsOnly (SingleFailure testCase output) (judgeSingle testCase output) := by
  refine failsOnly_judgeSingle fun expectation expected =>
    ⟨fun failure fails => ?_, fun diagnostic given failure fails => ?_⟩
  · obtain ⟨rfl, crosses⟩ :=
      (searchable expectation expected).failsOnly_matchesText output.output failure fails
    exact .output expectation expected crosses
  · obtain ⟨rfl, crosses⟩ :=
      (searchable expectation expected).failsOnly_matchesText diagnostic.render failure fails
    exact .line expectation expected diagnostic given crosses

end Verdict

end

namespace Crossing

/-- A warning in which the groups of the pattern cross, and nothing else. -/
def warned : CompileOutput := output "a.nc:1:1: warning: xyz\n" [crossed]

/-- The same text, printed by itself. -/
def printed : CompileOutput := output "xyz" []

theorem select_text : Registry.standard.select fragment.text = .ok Inline.dialect :=
  Registry.select_standard_of_undetected (by decide)

/-- The fragment is what is read from its text. -/
theorem parse_text : Fragment.parse .standard Sample.source fragment.text = .ok fragment := by
  have parsed : Inline.parse Sample.source fragment.text = .ok [testCase] :=
    Except.eq_ok_of_toOption (by decide +kernel)
  rw [Fragment.parse_eq_inline (by decide), parsed]
  rfl

end Crossing

end NegativeCompile
