import NegativeCompile.Proofs.Verdict.Reordering
import NegativeCompile.Proofs.Verdict.Tractable

/-! # Code that the compiler takes without a word

A compiler that ends well and says nothing has accepted the code (`CompileOutput.IsSilent`). Then all
cases of a fragment are said to have succeeded unexpectedly, before any expectation is looked at; and
they are said to have done so in no other case. This is right if some case was promised an error
(`Fragment.PromisesError`), and wrong if all that was promised are warnings, notes and remarks, which
were merely missed: verdicts report on promised errors (`Verdict.ReportPromises`) just if the output is
not silent or an error was promised (`reportPromises_iff`, `warning_taken_for_error`). -/

namespace NegativeCompile

open Files

section

variable {surroundings : Surroundings} {workdir : Option Path} {fragment : Fragment}
variable {output : CompileOutput} {verdict : Verdict} {verdicts : List Verdict}

/-- The compiler took the code without a word: it was not stopped, it did not break down, it ended
well, and it gave no diagnostics. -/
structure CompileOutput.IsSilent (output : CompileOutput) : Prop where
  /-- The compiler was not stopped. -/
  unstopped : output.timedOut = false
  /-- It did not break down. -/
  unbroken : output.crashed = false
  /-- It ended well. -/
  taken : output.returnCode = some 0
  /-- It gave no diagnostics. -/
  silent : output.diagnostics = []

/-- Some enabled case of a fragment expects an error. -/
def Fragment.PromisesError (fragment : Fragment) : Prop :=
  ∃ testCase ∈ fragment.enabledCases,
    ∃ expectation ∈ testCase.expectations, expectation.severity = .error

namespace Verdict

/-- Verdicts say that code was accepted unexpectedly just if the compiler took it without a word and
an error was promised. If none was promised, silence leaves all expectations unmet. -/
structure ReportPromises (fragment : Fragment) (output : CompileOutput) (verdicts : List Verdict) :
    Prop where
  /-- Code was accepted unexpectedly if an error was promised and none came. -/
  success_iff : ∀ verdict ∈ verdicts,
    (verdict.status = .unexpectedSuccess ↔ output.IsSilent ∧ fragment.PromisesError)
  /-- Other expectations are missed. -/
  missed : output.IsSilent → ¬ fragment.PromisesError → ∀ verdict ∈ verdicts,
    verdict.status = .expectationMismatch ∧ verdict.unmatched = verdict.testCase.expectations

/-- Unexpected success is found without a look at the diagnostics just if the compiler took the code
without a word. -/
theorem plainStatus?_eq_success_iff :
    plainStatus? output = some .unexpectedSuccess ↔ output.IsSilent := by
  constructor
  · intro plainly
    cases imposed : imposedStatus? output with
    | some imposing =>
      -- What is imposed is never a success.
      rw [plainStatus?, imposed] at plainly
      cases Option.some.inj plainly
      unfold imposedStatus? at imposed
      split at imposed
      · cases imposed
      · split at imposed
        · cases imposed
        · cases imposed
    | none =>
      -- Nothing is imposed, so the code was taken and no diagnostic was given.
      obtain ⟨unstopped, unbroken⟩ := imposedStatus?_eq_none_iff.mp imposed
      rw [plainStatus?, imposed] at plainly
      obtain ⟨silent, -⟩ := Option.ite_none_right_eq_some.mp plainly
      rw [Bool.and_eq_true, decide_eq_true_eq, List.isEmpty_iff] at silent
      exact ⟨unstopped, unbroken, silent.1, silent.2⟩
  · intro silent
    have unimposed := imposedStatus?_eq_none_iff.mpr ⟨silent.unstopped, silent.unbroken⟩
    rw [plainStatus?, unimposed]
    simp [silent.taken, silent.silent]

/-- If the compiler took the code without a word, every enabled case succeeded unexpectedly. -/
theorem judgeWhole_of_isSilent (silent : output.IsSilent) :
    judgeWhole surroundings fragment output workdir =
      .ok (fragment.enabledCases.map (plain · .unexpectedSuccess)) :=
  judgeWhole_of_plain (plainStatus?_eq_success_iff.mpr silent)

/-- An exact verdict on a case is one of three, none of which is a success. -/
theorem Exact.status_ne_success {diagnostics : List Diagnostic}
    (exact_here : verdict.Exact surroundings workdir fragment diagnostics) :
    verdict.status ≠ .unexpectedSuccess := by
  obtain ⟨mismatch_iff, unexpected_iff, passed_iff, -, -, -, -⟩ := exact_here
  intro success
  rw [success] at mismatch_iff unexpected_iff passed_iff
  -- One of the three conditions holds, and a success is none of the statuses that go with them.
  by_cases missed : ∃ expectation ∈ verdict.testCase.expectations,
      expectation.IsMissed surroundings workdir fragment diagnostics
  · cases mismatch_iff.mpr missed
  · by_cases stray : ∃ diagnostic ∈ diagnostics, diagnostic.IsStray surroundings workdir fragment
    · cases unexpected_iff.mpr ⟨missed, stray⟩
    · cases passed_iff.mpr ⟨missed, stray⟩

/-- A case succeeded unexpectedly just if the compiler took the code without a word. -/
theorem success_iff_of_judgeWhole
    (judged : judgeWhole surroundings fragment output workdir = .ok verdicts) :
    ∀ verdict ∈ verdicts, (verdict.status = .unexpectedSuccess ↔ output.IsSilent) := by
  intro verdict member
  rw [← plainStatus?_eq_success_iff]
  cases plainly : plainStatus? output with
  | some status =>
    rw [judgeWhole_of_plain plainly] at judged
    cases Except.ok.inj judged
    rw [status_of_mem_plain member, Option.some.injEq]
  | none =>
    have unsuccessful := (exact_of_judgeWhole plainly judged verdict member).status_ne_success
    simp [unsuccessful]

/-- Verdicts report on promised errors just if the output is not silent or an error was promised to
some case, unless there are no cases. -/
theorem reportPromises_iff_of_judgeWhole
    (judged : judgeWhole surroundings fragment output workdir = .ok verdicts) :
    ReportPromises fragment output verdicts ↔
      (output.IsSilent → fragment.enabledCases = [] ∨ fragment.PromisesError) := by
  have successes := success_iff_of_judgeWhole judged
  constructor
  · intro reports silent
    rw [judgeWhole_of_isSilent silent] at judged
    cases Except.ok.inj judged
    by_cases none : fragment.enabledCases = []
    · exact .inl none
    · -- Any case has succeeded unexpectedly, which is right only if an error was promised.
      obtain ⟨testCase, listed⟩ := List.exists_mem_of_ne_nil _ none
      have success := reports.success_iff _ (List.mem_map.mpr ⟨testCase, listed, rfl⟩)
      exact .inr (success.mp rfl).2
  · intro promised
    -- Where no error was promised there are no cases, and so no verdicts that could be wrong.
    have without (silent : output.IsSilent) (unpromised : ¬ fragment.PromisesError) :
        verdicts = [] := by
      have none := (promised silent).resolve_right unpromised
      rw [judgeWhole_of_isSilent silent, none] at judged
      exact (Except.ok.inj judged).symm
    refine ⟨fun verdict member => ?_, fun silent unpromised verdict member => ?_⟩
    · rw [successes verdict member]
      refine ⟨fun silent => ⟨silent, ?_⟩, And.left⟩
      by_contra unpromised
      rw [without silent unpromised] at member
      cases member
    · rw [without silent unpromised] at member
      cases member

end Verdict

/-- Silence of the compiler makes every enabled case an unexpected success, whatever was expected, and
nothing else does. So whatever verdicts are given report on promised errors just if the output is not
silent, there are no cases, or an error was promised. -/
theorem reportPromises_iff (surroundings : Surroundings) (workdir : Option Path)
    (fragment : Fragment) (output : CompileOutput) :
    (output.IsSilent → Verdict.judgeWhole surroundings fragment output workdir =
      .ok (fragment.enabledCases.map (Verdict.plain · .unexpectedSuccess))) ∧
    ∀ verdicts, Verdict.judgeWhole surroundings fragment output workdir = .ok verdicts →
      (∀ verdict ∈ verdicts, (verdict.status = .unexpectedSuccess ↔ output.IsSilent)) ∧
      (Verdict.ReportPromises fragment output verdicts ↔
        (output.IsSilent → fragment.enabledCases = [] ∨ fragment.PromisesError)) := by
  refine ⟨Verdict.judgeWhole_of_isSilent, fun verdicts judged => ⟨?_, ?_⟩⟩
  · exact Verdict.success_iff_of_judgeWhole judged
  · exact Verdict.reportPromises_iff_of_judgeWhole judged

end

/-! ## Instances -/

/-- What is known of a compiler that took code without a word. -/
def Sample.silence : CompileOutput := ⟨[], some 0, "", .zero, [], false, false⟩

/-- Nothing is wrong with the compiler, and nothing was said. -/
theorem Sample.isSilent_silence : silence.IsSilent := ⟨rfl, rfl, rfl, rfl⟩

/-- The sample promises errors, so its verdicts on silence report on them. -/
theorem reportPromises_sample :
    Sample.silence.IsSilent ∧ Sample.fragment.PromisesError ∧
      ∃ verdicts, Verdict.judgeWhole ⟨Sample.tree, []⟩ Sample.fragment Sample.silence none =
          .ok verdicts ∧
        Verdict.ReportPromises Sample.fragment Sample.silence verdicts := by
  have promised : Sample.fragment.PromisesError :=
    ⟨Sample.caseAt "line_1" 1 "foo", by decide, _, List.mem_singleton_self _, rfl⟩
  obtain ⟨silently, given⟩ := reportPromises_iff ⟨Sample.tree, []⟩ none Sample.fragment Sample.silence
  have judged := silently Sample.isSilent_silence
  refine ⟨Sample.isSilent_silence, promised, _, judged, (given _ judged).2.mpr fun _ => ?_⟩
  exact .inr promised

namespace Warned

/-- A line that is to be warned of. -/
def text : String := "x // expected-warning \x7b\x7bfoo\x7d\x7d\n"

/-- The case that the line is read as. -/
def testCase : TestCase :=
  ⟨"line_1", ⟨1, 1⟩, [⟨"line_1", "foo", false, some 1, .warning⟩], true, none⟩

/-- The fragment that the line is read as. -/
def fragment : Fragment := ⟨Sample.source, text, "inline", [testCase]⟩

theorem parse_text : Fragment.parse .standard Sample.source text = .ok fragment := by
  have parsed : Inline.parse Sample.source text = .ok [testCase] :=
    Except.eq_ok_of_toOption (by decide +kernel)
  rw [Fragment.parse_eq_inline (by decide), parsed]
  rfl

/-- No error is promised. -/
theorem not_promisesError : ¬ fragment.PromisesError := by
  rintro ⟨testCase, enabled, expectation, listed, error⟩
  cases List.mem_singleton.mp enabled
  cases List.mem_singleton.mp listed
  cases error

end Warned

/-- A fragment that is read from a text and promises a warning only: if the compiler says nothing, its
case succeeded unexpectedly although it merely missed the warning. -/
theorem warning_taken_for_error :
    Fragment.parse .standard Sample.source Warned.text = .ok Warned.fragment ∧
      ¬ ∀ surroundings workdir fragment output verdicts,
        Verdict.judgeWhole surroundings fragment output workdir = .ok verdicts →
          Verdict.ReportPromises fragment output verdicts := by
  refine ⟨Warned.parse_text, fun always => ?_⟩
  have judged : Verdict.judgeWhole ⟨Sample.tree, []⟩ Warned.fragment Sample.silence none =
      .ok [Verdict.plain Warned.testCase .unexpectedSuccess] :=
    Verdict.judgeWhole_of_isSilent Sample.isSilent_silence
  have reports := always _ _ _ _ _ judged
  have success := (reports.success_iff _ (List.mem_singleton_self _)).mp rfl
  exact Warned.not_promisesError success.2

end NegativeCompile
