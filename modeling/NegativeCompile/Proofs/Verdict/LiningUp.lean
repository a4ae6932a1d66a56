import NegativeCompile.Proofs.Run.Settling

/-! # Exact verdicts on whole fragments

What a verdict on a case of a whole fragment says, in terms of sets: which diagnostics are about the
fragment (`Diagnostic.IsAbout`), which of them meet an expectation (`Expectation.MetBy`) and which
errors are stray (`Diagnostic.IsStray`). Matching works through lists in several passes; whatever it
returns says just that (`whole_verdicts_exact`), and it returns if every question that it asks about
files and messages has an answer (`Answerable`). A name of a file that holds a null character has
none (`no_verdict_on_null_character`). -/

namespace NegativeCompile

open Files

variable {surroundings : Surroundings} {workdir : Option Path} {fragment : Fragment}
variable {testCase : TestCase} {output : CompileOutput} {verdict : Verdict}
variable {expectation : Expectation} {expectations : List Expectation}
variable {diagnostic : Diagnostic} {diagnostics here stray : List Diagnostic}
variable {allowed : Failure → Prop}

/-! ## Meeting expectations -/

/-- A diagnostic meets an expectation: it is about the expected line, if that matters, it has the
expected severity, and its message holds what is expected. -/
structure Expectation.MetBy (expectation : Expectation) (diagnostic : Diagnostic) : Prop where
  /-- The line is the expected one, if there is one. -/
  line : ∀ line, expectation.line = some line → (diagnostic.line : Int) = line
  /-- The severity is the expected one. -/
  severity : diagnostic.severity = expectation.severity
  /-- The message holds the expected text, or the expected pattern matches in it. -/
  text : expectation.matchesText diagnostic.message = .ok true

namespace Expectation

/-- A line is accepted just if it is the expected one, if there is one. -/
theorem acceptsLine_iff : expectation.acceptsLine diagnostic = true ↔
    ∀ line, expectation.line = some line → (diagnostic.line : Int) = line := by
  unfold acceptsLine
  cases expectation.line with
  | none => simp
  | some line => simp

/-- A diagnostic is accepted just if it meets the expectation. -/
theorem accepts_eq_true_iff :
    expectation.accepts diagnostic = .ok true ↔ expectation.MetBy diagnostic := by
  unfold accepts
  by_cases line : expectation.acceptsLine diagnostic = true
  · by_cases severity : diagnostic.severity = expectation.severity
    · rw [if_neg (by simpa using line), if_neg (not_not_intro severity)]
      exact ⟨fun text => ⟨acceptsLine_iff.mp line, severity, text⟩, fun met => met.text⟩
    · rw [if_neg (by simpa using line), if_pos severity]
      exact ⟨nofun, fun met => absurd met.severity severity⟩
  · rw [if_pos (by simpa using line)]
    exact ⟨nofun, fun met => absurd (acceptsLine_iff.mpr met.line) line⟩

/-- Whether a diagnostic meets an expectation can be found out. -/
instance : Decidable (expectation.MetBy diagnostic) := decidable_of_iff _ accepts_eq_true_iff

/-- A diagnostic that is refused does not meet the expectation. -/
theorem not_metBy_of_refused (refused : expectation.accepts diagnostic = .ok false) :
    ¬ expectation.MetBy diagnostic := by
  intro met
  rw [accepts_eq_true_iff.mpr met] at refused
  cases refused

/-- Looking for a text that is no pattern always has an answer. -/
theorem exists_matchesText_of_literal (literal : expectation.isRegex = false) (message : String) :
    ∃ found, expectation.matchesText message = .ok found := by
  rw [matchesText, literal]
  exact ⟨_, rfl⟩

/-- A diagnostic is accepted or refused if looking for the expected text has an answer. -/
theorem exists_accepts
    (answered : ∃ found, expectation.matchesText diagnostic.message = .ok found) :
    ∃ found, expectation.accepts diagnostic = .ok found := by
  unfold accepts
  split
  · exact ⟨false, rfl⟩
  · split
    · exact ⟨false, rfl⟩
    · exact answered

end Expectation

namespace Verdict

/-- The first diagnostic that is accepted is the first one that meets the expectation. -/
theorem eq_find?_of_firstAccepted {hit : Option Diagnostic}
    (found : firstAccepted expectation diagnostics = .ok hit) :
    hit = diagnostics.find? (expectation.MetBy ·) := by
  induction diagnostics with
  | nil => exact (Except.ok.inj found).symm
  | cons diagnostic rest ih =>
    obtain ⟨accepted, answer, next⟩ := Except.bind_eq_ok_iff.mp found
    cases accepted with
    | true =>
      have met : expectation.MetBy diagnostic := Expectation.accepts_eq_true_iff.mp answer
      rw [List.find?_cons_of_pos (by simpa using met)]
      exact (Except.ok.inj next).symm
    | false =>
      have unmet := Expectation.not_metBy_of_refused answer
      rw [List.find?_cons_of_neg (by simpa using unmet)]
      exact ih next

/-- Looking for the first diagnostic that is accepted fails only as accepting one does. -/
theorem failsOnly_firstAccepted
    (accepts : ∀ diagnostic ∈ diagnostics, Except.FailsOnly allowed (expectation.accepts diagnostic)) :
    Except.FailsOnly allowed (firstAccepted expectation diagnostics) := by
  induction diagnostics with
  | nil => exact .ok none
  | cons diagnostic rest ih =>
    obtain ⟨first, others⟩ := List.forall_mem_cons.mp accepts
    refine first.bind fun accepted _ => ?_
    split
    · exact .ok _
    · exact ih others

/-- Some expectation accepts a diagnostic just if it meets one of them. -/
theorem eq_true_iff_of_someAccepts {found : Bool}
    (answer : someAccepts diagnostic expectations = .ok found) :
    found = true ↔ ∃ expectation ∈ expectations, expectation.MetBy diagnostic := by
  induction expectations with
  | nil =>
    rw [← Except.ok.inj answer]
    simp
  | cons expectation rest ih =>
    obtain ⟨accepted, first, next⟩ := Except.bind_eq_ok_iff.mp answer
    cases accepted with
    | true =>
      have met : expectation.MetBy diagnostic := Expectation.accepts_eq_true_iff.mp first
      rw [← Except.ok.inj next]
      exact ⟨fun _ => ⟨expectation, List.mem_cons_self, met⟩, fun _ => rfl⟩
    | false =>
      have unmet := Expectation.not_metBy_of_refused first
      rw [ih next, List.exists_mem_cons_iff, or_iff_right unmet]

/-- Looking for an expectation that accepts a diagnostic fails only as accepting it does. -/
theorem failsOnly_someAccepts (accepts : ∀ expectation ∈ expectations,
      Except.FailsOnly allowed (expectation.accepts diagnostic)) :
    Except.FailsOnly allowed (someAccepts diagnostic expectations) := by
  induction expectations with
  | nil => exact .ok false
  | cons expectation rest ih =>
    obtain ⟨first, others⟩ := List.forall_mem_cons.mp accepts
    refine first.bind fun accepted _ => ?_
    split
    · exact .ok true
    · exact ih others

/-- Expectations are lined up with the first diagnostics that meet them, in their order. -/
theorem lined_of_lineUp {matched : List (Expectation × Diagnostic)} {unmatched : List Expectation}
    (lined : lineUp here expectations = .ok (matched, unmatched)) :
    matched.map (·.1) =
        expectations.filter (fun expectation => ∃ diagnostic ∈ here, expectation.MetBy diagnostic) ∧
      (∀ pair ∈ matched, here.find? (pair.1.MetBy ·) = some pair.2) ∧
      unmatched =
        expectations.filter (fun expectation => ∀ diagnostic ∈ here, ¬ expectation.MetBy diagnostic) := by
  induction expectations generalizing matched unmatched with
  | nil =>
    cases Except.ok.inj lined
    exact ⟨rfl, by simp, rfl⟩
  | cons expectation rest ih =>
    obtain ⟨hit, first, next⟩ := Except.bind_eq_ok_iff.mp lined
    obtain ⟨⟨others, missing⟩, tail, equal⟩ := Except.bind_eq_ok_iff.mp next
    obtain ⟨fromFirst, firstHits, fromMissing⟩ := ih tail
    have sought := eq_find?_of_firstAccepted first
    -- An expectation goes to one of the two lists, by whether anything meets it.
    cases hit with
    | some diagnostic =>
      obtain ⟨rfl, rfl⟩ := Prod.mk.inj (Except.ok.inj equal)
      have met : ∃ diagnostic ∈ here, expectation.MetBy diagnostic :=
        ⟨diagnostic, List.mem_of_find?_eq_some sought.symm, by simpa using List.find?_some sought.symm⟩
      have unmissed : ¬ ∀ diagnostic ∈ here, ¬ expectation.MetBy diagnostic := by
        simpa using met
      refine ⟨?_, ?_, ?_⟩
      · rw [List.map_cons, List.filter_cons_of_pos (by simpa using met), fromFirst]
      · intro pair member
        rcases List.mem_cons.mp member with rfl | member
        · exact sought.symm
        · exact firstHits pair member
      · rw [List.filter_cons_of_neg (by simpa using unmissed), fromMissing]
    | none =>
      obtain ⟨rfl, rfl⟩ := Prod.mk.inj (Except.ok.inj equal)
      have missed : ∀ diagnostic ∈ here, ¬ expectation.MetBy diagnostic := by
        intro diagnostic member met
        exact List.find?_eq_none.mp sought.symm diagnostic member (decide_eq_true met)
      refine ⟨?_, firstHits, ?_⟩
      · rw [List.filter_cons_of_neg (by simpa using missed), fromFirst]
      · rw [List.filter_cons_of_pos (by simpa using missed), fromMissing]

/-- Lining up expectations fails only as accepting diagnostics does. -/
theorem failsOnly_lineUp (accepts : ∀ expectation ∈ expectations, ∀ diagnostic ∈ here,
      Except.FailsOnly allowed (expectation.accepts diagnostic)) :
    Except.FailsOnly allowed (lineUp here expectations) := by
  induction expectations with
  | nil => exact .ok _
  | cons expectation rest ih =>
    obtain ⟨first, others⟩ := List.forall_mem_cons.mp accepts
    refine (failsOnly_firstAccepted first).bind fun hit _ => ?_
    exact (ih others).bind fun lined _ => .ok _

end Verdict

/-! ## Diagnostics about a fragment -/

/-- A diagnostic is about a fragment if the file that it names is the one of the fragment. -/
def Diagnostic.IsAbout (surroundings : Surroundings) (workdir : Option Path) (fragment : Fragment)
    (diagnostic : Diagnostic) : Prop :=
  surroundings.sameFile diagnostic.file fragment.path workdir = .ok true

/-- Whether a diagnostic is about a fragment can be found out. -/
instance : Decidable (diagnostic.IsAbout surroundings workdir fragment) :=
  inferInstanceAs (Decidable (_ = _))

/-- An error is stray if it is not about the fragment or meets no expectation of an enabled case. -/
structure Diagnostic.IsStray (surroundings : Surroundings) (workdir : Option Path)
    (fragment : Fragment) (diagnostic : Diagnostic) : Prop where
  /-- It is an error. -/
  error : diagnostic.severity = .error
  /-- Nothing explains it. -/
  unexplained : ¬ diagnostic.IsAbout surroundings workdir fragment ∨
    ∀ testCase ∈ fragment.enabledCases, ∀ expectation ∈ testCase.expectations,
      ¬ expectation.MetBy diagnostic

/-- Whether an error is stray can be found out. -/
instance : Decidable (diagnostic.IsStray surroundings workdir fragment) :=
  decidable_of_iff (diagnostic.severity = .error ∧
    (¬ diagnostic.IsAbout surroundings workdir fragment ∨
      ∀ testCase ∈ fragment.enabledCases, ∀ expectation ∈ testCase.expectations,
        ¬ expectation.MetBy diagnostic))
    ⟨fun both => ⟨both.1, both.2⟩, fun stray => ⟨stray.error, stray.unexplained⟩⟩

/-- A case of a fragment misses an expectation if no diagnostic about the fragment meets it. -/
def Expectation.IsMissed (surroundings : Surroundings) (workdir : Option Path) (fragment : Fragment)
    (diagnostics : List Diagnostic) (expectation : Expectation) : Prop :=
  ∀ diagnostic ∈ diagnostics,
    ¬ (diagnostic.IsAbout surroundings workdir fragment ∧ expectation.MetBy diagnostic)

/-- Whether an expectation is missed can be found out. -/
instance : Decidable (expectation.IsMissed surroundings workdir fragment diagnostics) :=
  inferInstanceAs (Decidable (∀ _ ∈ _, _))

namespace Verdict

/-- The diagnostics that are picked are those about the fragment. -/
theorem eq_filter_of_localDiagnostics
    (picked : localDiagnostics surroundings fragment workdir diagnostics = .ok here) :
    here = diagnostics.filter (·.IsAbout surroundings workdir fragment) := by
  induction diagnostics generalizing here with
  | nil => exact (Except.ok.inj picked).symm
  | cons diagnostic rest ih =>
    obtain ⟨isLocal, answer, next⟩ := Except.bind_eq_ok_iff.mp picked
    obtain ⟨others, tail, equal⟩ := Except.bind_eq_ok_iff.mp next
    rw [← Except.ok.inj equal, ih tail]
    cases isLocal with
    | true =>
      have about : diagnostic.IsAbout surroundings workdir fragment := answer
      rw [List.filter_cons_of_pos (by simpa using about)]
      rfl
    | false =>
      have elsewhere : ¬ diagnostic.IsAbout surroundings workdir fragment := by
        intro about
        cases answer.symm.trans about
      rw [List.filter_cons_of_neg (by simpa using elsewhere)]
      rfl

/-- Picking the diagnostics about a fragment fails only as telling files apart does. -/
theorem failsOnly_localDiagnostics (told : ∀ diagnostic ∈ diagnostics,
      Except.FailsOnly allowed (surroundings.sameFile diagnostic.file fragment.path workdir)) :
    Except.FailsOnly allowed (localDiagnostics surroundings fragment workdir diagnostics) := by
  induction diagnostics with
  | nil => exact .ok []
  | cons diagnostic rest ih =>
    obtain ⟨first, others⟩ := List.forall_mem_cons.mp told
    exact first.bind fun isLocal _ => (ih others).bind fun others _ => .ok _

/-- Whether an error is left over depends on whether it is picked and meets an expectation. -/
theorem strayErrors_cons {rest : List Diagnostic}
    (left : strayErrors here expectations (diagnostic :: rest) = .ok stray) :
    ∃ others, strayErrors here expectations rest = .ok others ∧
      stray = if diagnostic ∉ here ∨ ∀ expectation ∈ expectations, ¬ expectation.MetBy diagnostic
        then diagnostic :: others else others := by
  rw [strayErrors] at left
  by_cases member : diagnostic ∈ here
  · rw [if_pos (List.contains_iff_mem.mpr member)] at left
    obtain ⟨expected, answer, next⟩ := Except.bind_eq_ok_iff.mp left
    obtain ⟨others, tail, equal⟩ := Except.bind_eq_ok_iff.mp next
    have met := eq_true_iff_of_someAccepts answer
    refine ⟨others, tail, ?_⟩
    rw [← Except.ok.inj equal]
    cases expected with
    | true => rw [if_pos rfl, if_neg (by simpa [member] using met.mp rfl)]
    | false => rw [if_neg (by decide), if_pos (.inr (by simpa using met))]
  · rw [if_neg (mt List.contains_iff_mem.mp member)] at left
    obtain ⟨others, tail, equal⟩ := Except.bind_eq_ok_iff.mp (show
      (strayErrors here expectations rest >>= fun others => pure (diagnostic :: others)) = .ok stray
      from left)
    refine ⟨others, tail, ?_⟩
    rw [if_pos (.inl member), ← Except.ok.inj equal]

/-- The errors that are left over are those that are not picked or that meet no expectation. -/
theorem eq_filter_of_strayErrors (left : strayErrors here expectations diagnostics = .ok stray) :
    stray = diagnostics.filter (fun diagnostic => diagnostic ∉ here ∨
      ∀ expectation ∈ expectations, ¬ expectation.MetBy diagnostic) := by
  induction diagnostics generalizing stray with
  | nil => exact (Except.ok.inj left).symm
  | cons diagnostic rest ih =>
    obtain ⟨others, tail, rfl⟩ := strayErrors_cons left
    rw [List.filter_cons, ih tail]
    simp only [decide_eq_true_eq]

/-- Sorting out errors fails only as accepting diagnostics does. -/
theorem failsOnly_strayErrors (accepts : ∀ diagnostic ∈ diagnostics, ∀ expectation ∈ expectations,
      Except.FailsOnly allowed (expectation.accepts diagnostic)) :
    Except.FailsOnly allowed (strayErrors here expectations diagnostics) := by
  induction diagnostics with
  | nil => exact .ok []
  | cons diagnostic rest ih =>
    obtain ⟨first, others⟩ := List.forall_mem_cons.mp accepts
    rw [strayErrors]
    split
    · refine (failsOnly_someAccepts first).bind fun expected _ => ?_
      exact (ih others).bind fun others _ => .ok _
    · rw [pure_bind]
      exact (ih others).bind fun others _ => .ok _

end Verdict

/-! ## Exact verdicts -/

/-- A verdict on a case of a whole fragment, by a compiler run that was not stopped, did not break
down and gave something to look at, says just what the diagnostics of the run and the expectations of
the fragment say. -/
structure Verdict.Exact (surroundings : Surroundings) (workdir : Option Path) (fragment : Fragment)
    (diagnostics : List Diagnostic) (verdict : Verdict) : Prop where
  /-- There is a mismatch just if an expectation of the case is missed. -/
  mismatch_iff : verdict.status = .expectationMismatch ↔
    ∃ expectation ∈ verdict.testCase.expectations,
      expectation.IsMissed surroundings workdir fragment diagnostics
  /-- Something was unexpected just if no expectation of the case is missed and an error is stray. -/
  unexpected_iff : verdict.status = .unexpectedDiagnostic ↔
    (¬ ∃ expectation ∈ verdict.testCase.expectations,
      expectation.IsMissed surroundings workdir fragment diagnostics) ∧
    ∃ diagnostic ∈ diagnostics, diagnostic.IsStray surroundings workdir fragment
  /-- The case passed just if no expectation of it is missed and no error is stray. -/
  passed_iff : verdict.status = .passed ↔
    (¬ ∃ expectation ∈ verdict.testCase.expectations,
      expectation.IsMissed surroundings workdir fragment diagnostics) ∧
    ¬ ∃ diagnostic ∈ diagnostics, diagnostic.IsStray surroundings workdir fragment
  /-- What was unexpected are the stray errors, in the order of the output. -/
  unexpected_eq :
    verdict.unexpected = diagnostics.filter (·.IsStray surroundings workdir fragment)
  /-- The expectations that were met are those that are not missed, in source order. -/
  matched_eq : verdict.matched.map (·.1) = verdict.testCase.expectations.filter
    (¬ ·.IsMissed surroundings workdir fragment diagnostics)
  /-- Each of them was met by the first diagnostic about the fragment that meets it. -/
  first : ∀ pair ∈ verdict.matched, diagnostics.find? (fun diagnostic =>
    diagnostic.IsAbout surroundings workdir fragment ∧ pair.1.MetBy diagnostic) = some pair.2
  /-- The expectations that were not met are those that are missed, in source order. -/
  unmatched_eq : verdict.unmatched = verdict.testCase.expectations.filter
    (·.IsMissed surroundings workdir fragment diagnostics)

namespace Verdict

/-- An expectation is missed if no diagnostic among those about the fragment meets it. -/
theorem forall_not_metBy_iff :
    (∀ diagnostic ∈ diagnostics.filter (·.IsAbout surroundings workdir fragment),
      ¬ expectation.MetBy diagnostic) ↔
    expectation.IsMissed surroundings workdir fragment diagnostics := by
  simp only [List.mem_filter, decide_eq_true_eq, Expectation.IsMissed, not_and, and_imp]

/-- An expectation is not missed if some diagnostic among those about the fragment meets it. -/
theorem exists_metBy_iff :
    (∃ diagnostic ∈ diagnostics.filter (·.IsAbout surroundings workdir fragment),
      expectation.MetBy diagnostic) ↔
    ¬ expectation.IsMissed surroundings workdir fragment diagnostics := by
  rw [← forall_not_metBy_iff]
  push Not
  rfl

/-- A list of what is picked is not empty just if something is. -/
theorem not_isEmpty_filter_iff {α : Type} {list : List α} {picks : α → Prop} [DecidablePred picks] :
    (!(list.filter (picks ·)).isEmpty) = true ↔ ∃ value ∈ list, picks value := by
  simp [List.filter_eq_nil_iff]

/-- The status of a case tells whether an expectation of it was missed and whether an error was
stray. -/
theorem status_iff {missed stray : Bool} {isMissed isStray : Prop} {status : Status}
    (given : status = if missed then .expectationMismatch
      else if stray then .unexpectedDiagnostic else .passed)
    (misses : missed = true ↔ isMissed) (strays : stray = true ↔ isStray) :
    (status = .expectationMismatch ↔ isMissed) ∧
      (status = .unexpectedDiagnostic ↔ ¬ isMissed ∧ isStray) ∧
      (status = .passed ↔ ¬ isMissed ∧ ¬ isStray) := by
  rw [given, ← misses, ← strays]
  cases missed <;> cases stray <;> decide

/-- A verdict on one case, given the diagnostics about its fragment and the stray errors, is exact. -/
theorem exact_of_judgeCase
    (judged : judgeCase (diagnostics.filter (·.IsAbout surroundings workdir fragment))
      (diagnostics.filter (·.IsStray surroundings workdir fragment)) testCase = .ok verdict) :
    verdict.Exact surroundings workdir fragment diagnostics := by
  obtain ⟨⟨matched, unmatched⟩, lined, equal⟩ := Except.bind_eq_ok_iff.mp judged
  obtain ⟨matchedFirsts, hits, missing⟩ := lined_of_lineUp lined
  simp only [exists_metBy_iff] at matchedFirsts
  simp only [forall_not_metBy_iff] at missing
  have missed : (!unmatched.isEmpty) = true ↔ ∃ expectation ∈ testCase.expectations,
      expectation.IsMissed surroundings workdir fragment diagnostics := by
    rw [missing, not_isEmpty_filter_iff]
  have poisoned : (!(diagnostics.filter (·.IsStray surroundings workdir fragment)).isEmpty) = true ↔
      ∃ diagnostic ∈ diagnostics, diagnostic.IsStray surroundings workdir fragment :=
    not_isEmpty_filter_iff
  cases Except.ok.inj equal
  obtain ⟨mismatch, unexpected, passed⟩ := status_iff rfl missed poisoned
  refine ⟨mismatch, unexpected, passed, rfl, matchedFirsts, fun pair member => ?_, missing⟩
  have first := hits pair member
  rw [List.find?_filter] at first
  simpa only [Bool.decide_and, decide_eq_true_eq, Bool.decide_eq_true] using first

/-- All verdicts on the cases of a whole fragment say what the output of the compiler says. -/
structure SayExactly (surroundings : Surroundings) (workdir : Option Path) (fragment : Fragment)
    (output : CompileOutput) (verdicts : List Verdict) : Prop where
  /-- There is one verdict on each enabled case, in source order. -/
  about : verdicts.map (·.testCase) = fragment.enabledCases
  /-- If the compiler had to be stopped, every verdict says so. -/
  timeout : output.timedOut = true → ∀ verdict ∈ verdicts, verdict.status = .timeout
  /-- If it broke down, every verdict says so. -/
  crash : output.timedOut = false → output.crashed = true →
    ∀ verdict ∈ verdicts, verdict.status = .compilerCrash
  /-- If it took the code without a word, every verdict says so. -/
  success : output.timedOut = false → output.crashed = false →
    output.returnCode = some 0 → output.diagnostics = [] →
      ∀ verdict ∈ verdicts, verdict.status = .unexpectedSuccess
  /-- Otherwise every verdict is exact. -/
  exact : output.timedOut = false → output.crashed = false →
    output.returnCode ≠ some 0 ∨ output.diagnostics ≠ [] →
      ∀ verdict ∈ verdicts, verdict.Exact surroundings workdir fragment output.diagnostics

/-- The errors that are left over when those about the fragment are picked are the stray ones. -/
theorem filter_isStray_eq : output.errors.filter (fun diagnostic =>
      diagnostic ∉ output.diagnostics.filter (·.IsAbout surroundings workdir fragment) ∨
        ∀ expectation ∈ fragment.enabledCases.flatMap (·.expectations),
          ¬ expectation.MetBy diagnostic) =
    output.diagnostics.filter (·.IsStray surroundings workdir fragment) := by
  rw [CompileOutput.errors, List.filter_filter]
  -- An error of the output is picked just if it is about the fragment, also if it was given twice.
  refine List.filter_congr fun diagnostic member => ?_
  rw [← Bool.decide_and, decide_eq_decide, List.mem_filter, and_iff_right member, decide_eq_true_eq,
    List.forall_mem_flatMap]
  exact ⟨fun ⟨unexplained, error⟩ => ⟨error, unexplained⟩,
    fun stray => ⟨stray.unexplained, stray.error⟩⟩

/-- Verdicts that need no look at the diagnostics all have the same status. -/
theorem status_of_mem_plain {cases : List TestCase} {status : Status}
    (member : verdict ∈ cases.map (plain · status)) : verdict.status = status := by
  obtain ⟨testCase, -, rfl⟩ := List.mem_map.mp member
  rfl

/-- No status is imposed just if the compiler was neither stopped nor broke down. -/
theorem imposedStatus?_eq_none_iff :
    imposedStatus? output = none ↔ output.timedOut = false ∧ output.crashed = false := by
  unfold imposedStatus?
  cases output.timedOut <;> cases output.crashed <;> decide

/-- Whatever verdicts are given on the cases of a whole fragment are exact. -/
theorem sayExactly_of_judgeWhole {verdicts : List Verdict}
    (judged : judgeWhole surroundings fragment output workdir = .ok verdicts) :
    SayExactly surroundings workdir fragment output verdicts := by
  have about := map_testCase_of_judgeWhole judged
  unfold judgeWhole at judged
  split at judged
  next status imposed =>
    -- A status is imposed, so the compiler was stopped or broke down, and all verdicts say which.
    cases Except.ok.inj judged
    unfold imposedStatus? at imposed
    refine ⟨about, fun stopped verdict member => ?_, fun unstopped broken verdict member => ?_,
      fun unstopped unbroken => ?_, fun unstopped unbroken => ?_⟩
    · rw [stopped] at imposed
      rw [status_of_mem_plain member]
      exact (Option.some.inj imposed).symm
    · rw [unstopped, broken] at imposed
      rw [status_of_mem_plain member]
      exact (Option.some.inj imposed).symm
    · rw [unstopped, unbroken] at imposed
      cases imposed
    · rw [unstopped, unbroken] at imposed
      cases imposed
  next imposed =>
    obtain ⟨unstopped, unbroken⟩ := imposedStatus?_eq_none_iff.mp imposed
    refine ⟨about, ?_, ?_, fun _ _ taken silent verdict member => ?_, fun _ _ unlike => ?_⟩
    · rw [unstopped]
      exact nofun
    · rw [unbroken]
      exact nofun
    · rw [if_pos (by simp [taken, silent])] at judged
      cases Except.ok.inj judged
      exact status_of_mem_plain member
    · -- Only here the diagnostics are looked at: those about the fragment are picked, then the strays.
      rw [if_neg (by simpa [imp_iff_not_or] using unlike)] at judged
      obtain ⟨here, picked, next⟩ := Except.bind_eq_ok_iff.mp judged
      obtain ⟨stray, left, each⟩ := Except.bind_eq_ok_iff.mp next
      rw [eq_filter_of_strayErrors left, eq_filter_of_localDiagnostics picked, filter_isStray_eq]
        at each
      intro verdict member
      obtain ⟨testCase, -, own⟩ := (Except.mapM_eq_ok_iff.mp each).exists_of_mem_right member
      exact exact_of_judgeCase own

/-- Judging a whole fragment fails only as telling files apart and accepting diagnostics do. -/
theorem failsOnly_judgeWhole
    (told : output.timedOut = false → output.crashed = false → ∀ diagnostic ∈ output.diagnostics,
      Except.FailsOnly allowed (surroundings.sameFile diagnostic.file fragment.path workdir))
    (accepts : output.timedOut = false → output.crashed = false → ∀ testCase ∈ fragment.enabledCases,
      ∀ expectation ∈ testCase.expectations, ∀ diagnostic ∈ output.diagnostics,
        Except.FailsOnly allowed (expectation.accepts diagnostic)) :
    Except.FailsOnly allowed (judgeWhole surroundings fragment output workdir) := by
  unfold judgeWhole
  dsimp only
  split
  next => exact .ok _
  next imposed =>
    obtain ⟨unstopped, unbroken⟩ := imposedStatus?_eq_none_iff.mp imposed
    split
    · exact .ok _
    · refine (failsOnly_localDiagnostics (told unstopped unbroken)).bind fun here picked => ?_
      -- What was picked was said, and what is expected at all is expected by some case.
      have within : ∀ diagnostic ∈ here, diagnostic ∈ output.diagnostics := by
        rw [eq_filter_of_localDiagnostics picked]
        exact fun diagnostic member => (List.mem_filter.mp member).1
      refine .bind ?_ fun stray _ => .mapM fun testCase enabled => ?_
      · refine failsOnly_strayErrors fun diagnostic member expectation listed => ?_
        obtain ⟨testCase, enabled, own⟩ := List.mem_flatMap.mp listed
        exact accepts unstopped unbroken testCase enabled expectation own diagnostic
          (List.mem_filter.mp member).1
      · refine (failsOnly_lineUp fun expectation own diagnostic member => ?_).bind fun _ _ => .ok _
        exact accepts unstopped unbroken testCase enabled expectation own diagnostic
          (within diagnostic member)

/-- Every question that judging a fragment asks about the output of the compiler has an answer. -/
structure Answerable (surroundings : Surroundings) (workdir : Option Path) (fragment : Fragment)
    (diagnostics : List Diagnostic) : Prop where
  /-- For each file that is named, whether it is the one of the fragment. -/
  files : ∀ diagnostic ∈ diagnostics,
    ∃ same, surroundings.sameFile diagnostic.file fragment.path workdir = .ok same
  /-- For each message, whether it holds the text of an expectation, or its pattern matches. -/
  texts : ∀ testCase ∈ fragment.enabledCases, ∀ expectation ∈ testCase.expectations,
    ∀ diagnostic ∈ diagnostics, ∃ found, expectation.matchesText diagnostic.message = .ok found

/-- Looking for what a fragment expects in messages has an answer, wherever it is done. -/
def Searchable (fragment : Fragment) (diagnostics : List Diagnostic) : Prop :=
  ∀ testCase ∈ fragment.enabledCases, ∀ expectation ∈ testCase.expectations,
    ∀ diagnostic ∈ diagnostics, ∃ found, expectation.accepts diagnostic = .ok found

/-- Verdicts are given if a status is imposed or each named file can be told from the one of the
fragment and each message can be searched. -/
theorem exists_judgeWhole_of_searchable
    (files : output.timedOut = false → output.crashed = false → ∀ diagnostic ∈ output.diagnostics,
      ∃ same, surroundings.sameFile diagnostic.file fragment.path workdir = .ok same)
    (searchable : output.timedOut = false → output.crashed = false →
      Searchable fragment output.diagnostics) :
    ∃ verdicts, judgeWhole surroundings fragment output workdir = .ok verdicts := by
  rw [← Except.failsOnly_never_iff]
  refine failsOnly_judgeWhole (fun unstopped unbroken diagnostic named => ?_)
    fun unstopped unbroken testCase enabled expectation expected diagnostic given => ?_
  · exact Except.failsOnly_never_iff.mpr (files unstopped unbroken diagnostic named)
  · exact Except.failsOnly_never_iff.mpr
      (searchable unstopped unbroken testCase enabled expectation expected diagnostic given)

/-- Verdicts are given if a status is imposed or every question has an answer. -/
theorem exists_judgeWhole
    (answerable : output.timedOut = false → output.crashed = false →
      Answerable surroundings workdir fragment output.diagnostics) :
    ∃ verdicts, judgeWhole surroundings fragment output workdir = .ok verdicts := by
  refine exists_judgeWhole_of_searchable
    (fun unstopped unbroken => (answerable unstopped unbroken).files)
    fun unstopped unbroken testCase enabled expectation listed diagnostic member => ?_
  exact Expectation.exists_accepts
    ((answerable unstopped unbroken).texts testCase enabled expectation listed diagnostic member)

end Verdict

/-- Whatever verdicts are given on the cases of a whole fragment are exact, and they are given
whenever the compiler was stopped or broke down or every question about its output has an answer. -/
theorem whole_verdicts_exact (surroundings : Surroundings) (workdir : Option Path)
    (fragment : Fragment) (output : CompileOutput) :
    (∀ verdicts, Verdict.judgeWhole surroundings fragment output workdir = .ok verdicts →
      Verdict.SayExactly surroundings workdir fragment output verdicts) ∧
    ((output.timedOut = false → output.crashed = false →
        Verdict.Answerable surroundings workdir fragment output.diagnostics) →
      ∃ verdicts, Verdict.judgeWhole surroundings fragment output workdir = .ok verdicts) :=
  ⟨fun _ => Verdict.sayExactly_of_judgeWhole, Verdict.exists_judgeWhole⟩

/-- Every question about what the compiler says of the sample has an answer, so there are verdicts on
both of its cases and they are exact. -/
theorem whole_verdicts_sample :
    Verdict.Answerable ⟨Sample.tree, []⟩ none Sample.fragment Sample.output.diagnostics ∧
      ∃ verdicts,
        Verdict.judgeWhole ⟨Sample.tree, []⟩ Sample.fragment Sample.output none = .ok verdicts ∧
          Verdict.SayExactly ⟨Sample.tree, []⟩ none Sample.fragment Sample.output verdicts := by
  have answerable :
      Verdict.Answerable ⟨Sample.tree, []⟩ none Sample.fragment Sample.output.diagnostics := by
    refine ⟨fun diagnostic member => ?_, fun testCase enabled expectation listed _ _ => ?_⟩
    · rw [List.mem_singleton.mp member]
      exact ⟨true, Sample.sameFile_source⟩
    · refine Expectation.exists_matchesText_of_literal ?_ _
      rcases List.mem_pair.mp (List.mem_filter.mp enabled).1 with rfl | rfl
      · rw [List.mem_singleton.mp listed]
      · rw [List.mem_singleton.mp listed]
  obtain ⟨exact, given⟩ := whole_verdicts_exact ⟨Sample.tree, []⟩ none Sample.fragment Sample.output
  obtain ⟨verdicts, judged⟩ := given fun _ _ => answerable
  exact ⟨answerable, verdicts, judged, exact verdicts judged⟩

/-- What the compiler says of the sample if it names a file by a null character. -/
def Sample.nullOutput : CompileOutput :=
  { Sample.output with diagnostics := [⟨"\x00", 1, some 1, .error, "foo"⟩] }

/-- There need not be verdicts: from a directory, no file can be looked for whose name holds a null
character. -/
theorem no_verdict_on_null_character :
    ¬ ∀ surroundings workdir fragment output, ∃ verdicts,
      Verdict.judgeWhole surroundings fragment output workdir = .ok verdicts ∧
        Verdict.SayExactly surroundings workdir fragment output verdicts := by
  intro always
  obtain ⟨verdicts, judged, -⟩ :=
    always ⟨Sample.tree, []⟩ (some (.ofParts [])) Sample.fragment Sample.nullOutput
  have name : Path.ofString ("\x00".map fun c => if c = '\\' then '/' else c) = ⟨0, ["\x00"]⟩ := by
    decide_cbv
  have relative : "\x00".startsWith "/" = false := by decide_cbv
  have nowhere : Surroundings.resolve ⟨Sample.tree, []⟩ ((Path.ofParts []).join ⟨0, ["\x00"]⟩) =
      .error (.senseless "embedded null byte") := by
    cbv
  have unknown : Surroundings.sameFile ⟨Sample.tree, []⟩ "\x00" Sample.source (some (.ofParts [])) =
      .error (.senseless "embedded null byte") := by
    simp only [Surroundings.sameFile, name, relative, nowhere]
    rfl
  have unjudged : Verdict.judgeWhole ⟨Sample.tree, []⟩ Sample.fragment Sample.nullOutput
      (some (.ofParts [])) = .error (.senseless "embedded null byte") := by
    have unimposed : Verdict.imposedStatus? Sample.nullOutput = none := rfl
    have complained : ¬ ((Sample.nullOutput.returnCode = some 0 &&
        Sample.nullOutput.diagnostics.isEmpty) = true) := by decide
    have unpicked : Verdict.localDiagnostics ⟨Sample.tree, []⟩ Sample.fragment (some (.ofParts []))
        Sample.nullOutput.diagnostics = .error (.senseless "embedded null byte") := by
      change (Surroundings.sameFile ⟨Sample.tree, []⟩ "\x00" Sample.source (some (.ofParts [])) >>=
        _) = _
      rw [unknown]
      rfl
    simp only [Verdict.judgeWhole, unimposed, if_neg complained, unpicked]
    rfl
  rw [unjudged] at judged
  cases judged

end NegativeCompile
