import NegativeCompile.Proofs.Text.Lines
import NegativeCompile.Proofs.Verdict.LiningUp

/-! # Reasons for verdicts

A verdict has grounds (`Verdict.IsGrounded`): if it says that something was missing or unexpected, then
something is listed. So the reason that is given for a verdict is empty just if the case passed, and the
reason for what does not line up has one part for each expectation that was not met, in source order, and
one for each error that was not expected, in the order of the output (`Verdict.IsExplained`).

A case that is judged by itself expects texts and patterns somewhere in the output. What was found nowhere
is not met; what was found in the line of a diagnostic is met by the first such diagnostic; and what was
found, but in no such line, is in neither list (`Verdict.IsSearched`). -/

namespace NegativeCompile

open Files Text

variable {surroundings : Surroundings} {workdir : Option Path} {fragment : Fragment}
variable {testCase : TestCase} {output : CompileOutput} {verdict : Verdict}
variable {expectation : Expectation} {expectations unmatched : List Expectation}
variable {matched : List (Expectation × Diagnostic)}
variable {diagnostic : Diagnostic} {diagnostics here stray : List Diagnostic}

/-! ## Searching an output -/

/-- What is expected is found in a text. -/
def Expectation.IsFoundIn (expectation : Expectation) (text : String) : Prop :=
  expectation.matchesText text = .ok true

/-- What is expected is found nowhere in a text. -/
def Expectation.IsAbsentFrom (expectation : Expectation) (text : String) : Prop :=
  expectation.matchesText text = .ok false

/-- Whether something is found can be told. -/
instance (text : String) : Decidable (expectation.IsFoundIn text) :=
  inferInstanceAs (Decidable (_ = _))

/-- Whether something is found nowhere can be told. -/
instance (text : String) : Decidable (expectation.IsAbsentFrom text) :=
  inferInstanceAs (Decidable (_ = _))

/-- What is found nowhere is not found. -/
theorem Expectation.IsAbsentFrom.not_isFoundIn {text : String}
    (absent : expectation.IsAbsentFrom text) : ¬ expectation.IsFoundIn text := by
  intro found
  cases absent.symm.trans found

namespace Verdict

/-- The diagnostic that is found is the first one in whose line something is found. -/
theorem find?_of_firstRendered (first : firstRendered expectation diagnostics = .ok (some diagnostic)) :
    diagnostics.find? (expectation.IsFoundIn ·.render) = some diagnostic := by
  induction diagnostics with
  | nil => cases first
  | cons other rest ih =>
    obtain ⟨found, answer, next⟩ := Except.bind_eq_ok_iff.mp first
    cases found with
    | true =>
      have inside : expectation.IsFoundIn other.render := answer
      rw [List.find?_cons_of_pos (by simpa using inside)]
      exact Except.ok.inj next
    | false =>
      have absent : expectation.IsAbsentFrom other.render := answer
      rw [List.find?_cons_of_neg (by simpa using absent.not_isFoundIn)]
      exact ih next

/-- If no diagnostic is found then nothing is found in the line of any. -/
theorem isAbsentFrom_of_firstRendered (none : firstRendered expectation diagnostics = .ok none) :
    ∀ diagnostic ∈ diagnostics, expectation.IsAbsentFrom diagnostic.render := by
  induction diagnostics with
  | nil => exact List.forall_mem_nil _
  | cons other rest ih =>
    obtain ⟨found, answer, next⟩ := Except.bind_eq_ok_iff.mp none
    cases found with
    | true => cases Except.ok.inj next
    | false => exact List.forall_mem_cons.mpr ⟨answer, ih next⟩

/-- Expectations are sorted by where they are found in an output: into those that some diagnostic meets,
each with the first one, and those that are not met. -/
inductive Sorts (output : CompileOutput) :
    List Expectation → List (Expectation × Diagnostic) → List Expectation → Prop where
  /-- Nothing is expected. -/
  | nil : Sorts output [] [] []
  /-- What is found nowhere is not met. -/
  | unmet {expectation : Expectation} {rest : List Expectation}
      {matched : List (Expectation × Diagnostic)} {unmatched : List Expectation}
      (absent : expectation.IsAbsentFrom output.output)
      (others : Sorts output rest matched unmatched) :
      Sorts output (expectation :: rest) matched (expectation :: unmatched)
  /-- What is found in the line of a diagnostic is met by the first such one. -/
  | met {expectation : Expectation} {rest : List Expectation}
      {matched : List (Expectation × Diagnostic)} {unmatched : List Expectation}
      {diagnostic : Diagnostic} (found : expectation.IsFoundIn output.output)
      (first : output.diagnostics.find? (expectation.IsFoundIn ·.render) = some diagnostic)
      (others : Sorts output rest matched unmatched) :
      Sorts output (expectation :: rest) ((expectation, diagnostic) :: matched) unmatched
  /-- What is found in no such line goes nowhere. -/
  | hidden {expectation : Expectation} {rest : List Expectation}
      {matched : List (Expectation × Diagnostic)} {unmatched : List Expectation}
      (found : expectation.IsFoundIn output.output)
      (nowhere : ∀ diagnostic ∈ output.diagnostics, expectation.IsAbsentFrom diagnostic.render)
      (others : Sorts output rest matched unmatched) :
      Sorts output (expectation :: rest) matched unmatched

/-- A search sorts the expectations. -/
theorem sorts_of_search (sorted : search output expectations = .ok (matched, unmatched)) :
    Sorts output expectations matched unmatched := by
  -- Each answer of the search is one way to sort the first expectation.
  induction expectations generalizing matched unmatched with
  | nil =>
    cases Except.ok.inj sorted
    exact .nil
  | cons expectation rest ih =>
    obtain ⟨found, answer, next⟩ := Except.bind_eq_ok_iff.mp sorted
    cases found with
    | false =>
      obtain ⟨⟨others, missing⟩, tail, equal⟩ := Except.bind_eq_ok_iff.mp next
      cases Except.ok.inj equal
      exact .unmet answer (ih tail)
    | true =>
      obtain ⟨hit, first, afterFirst⟩ := Except.bind_eq_ok_iff.mp next
      obtain ⟨⟨others, missing⟩, tail, equal⟩ := Except.bind_eq_ok_iff.mp afterFirst
      cases hit with
      | some diagnostic =>
        cases Except.ok.inj equal
        exact .met answer (find?_of_firstRendered first) (ih tail)
      | none =>
        cases Except.ok.inj equal
        exact .hidden answer (isAbsentFrom_of_firstRendered first) (ih tail)

/-- The expectations that are not met are those that are found nowhere, in source order. -/
theorem Sorts.unmatched_eq (sorts : Sorts output expectations matched unmatched) :
    unmatched = expectations.filter (·.IsAbsentFrom output.output) := by
  induction sorts with
  | nil => rfl
  | unmet absent _ ih => rw [List.filter_cons_of_pos (by simpa using absent), ← ih]
  | met found _ _ ih =>
    rw [List.filter_cons_of_neg (by simpa using fun absent => absent.not_isFoundIn found), ← ih]
  | hidden found _ _ ih =>
    rw [List.filter_cons_of_neg (by simpa using fun absent => absent.not_isFoundIn found), ← ih]

/-- An expectation that is met is found in the output, and first in the line of its diagnostic. -/
theorem Sorts.of_mem_matched (sorts : Sorts output expectations matched unmatched)
    {pair : Expectation × Diagnostic} (member : pair ∈ matched) :
    pair.1 ∈ expectations ∧ pair.1.IsFoundIn output.output ∧
      output.diagnostics.find? (pair.1.IsFoundIn ·.render) = some pair.2 := by
  induction sorts with
  | nil => cases member
  | unmet _ _ ih =>
    obtain ⟨listed, rest⟩ := ih member
    exact ⟨List.mem_cons_of_mem _ listed, rest⟩
  | met found first _ ih =>
    rcases List.mem_cons.mp member with rfl | later
    · exact ⟨List.mem_cons_self, found, first⟩
    · obtain ⟨listed, rest⟩ := ih later
      exact ⟨List.mem_cons_of_mem _ listed, rest⟩
  | hidden _ _ _ ih =>
    obtain ⟨listed, rest⟩ := ih member
    exact ⟨List.mem_cons_of_mem _ listed, rest⟩

/-- An expectation in neither list is found in the output, but in the line of no diagnostic. -/
theorem Sorts.hidden_of_notMem (sorts : Sorts output expectations matched unmatched)
    (member : expectation ∈ expectations) (notMet : expectation ∉ matched.map (·.1))
    (notMissing : expectation ∉ unmatched) :
    expectation.IsFoundIn output.output ∧
      ∀ diagnostic ∈ output.diagnostics, expectation.IsAbsentFrom diagnostic.render := by
  -- In all cases but the last one the first expectation is in one of the lists.
  induction sorts with
  | nil => cases member
  | unmet _ _ ih =>
    rcases List.mem_cons.mp member with rfl | later
    · exact absurd List.mem_cons_self notMissing
    · exact ih later notMet fun listed => notMissing (List.mem_cons_of_mem _ listed)
  | met _ _ _ ih =>
    rcases List.mem_cons.mp member with rfl | later
    · exact absurd List.mem_cons_self notMet
    · exact ih later (fun listed => notMet (List.mem_cons_of_mem _ listed)) notMissing
  | hidden found nowhere _ ih =>
    rcases List.mem_cons.mp member with rfl | later
    · exact ⟨found, nowhere⟩
    · exact ih later notMet notMissing

/-- The lists of a verdict on a case by itself say where in an output its expectations are found. -/
structure IsSearched (output : CompileOutput) (verdict : Verdict) : Prop where
  /-- The missing patterns are the texts of the expectations that were not met, in their order. -/
  missing_eq : verdict.missingPatterns = verdict.unmatched.map (·.text)
  /-- The expectations that were not met are those that are found nowhere in the output. -/
  unmatched_eq : verdict.unmatched =
    verdict.testCase.expectations.filter (·.IsAbsentFrom output.output)
  /-- An expectation that was met is found in the output, and first in the line of its diagnostic. -/
  met : ∀ pair ∈ verdict.matched,
    pair.1 ∈ verdict.testCase.expectations ∧ pair.1.IsFoundIn output.output ∧
      output.diagnostics.find? (pair.1.IsFoundIn ·.render) = some pair.2
  /-- Any other one is found in the output, but in the line of no diagnostic. -/
  hidden : ∀ expectation ∈ verdict.testCase.expectations,
    expectation ∉ verdict.matched.map (·.1) → expectation ∉ verdict.unmatched →
      expectation.IsFoundIn output.output ∧
        ∀ diagnostic ∈ output.diagnostics, expectation.IsAbsentFrom diagnostic.render

/-! ## Grounds -/

/-- What the status of a verdict says is borne out by what the verdict lists. -/
structure IsGrounded (output : CompileOutput) (verdict : Verdict) : Prop where
  /-- The case passed or failed. -/
  decided : verdict.status = .passed ∨ verdict.status.isFailure = true
  /-- If there is a mismatch, something is listed that was not met. -/
  mismatch : verdict.status = .expectationMismatch → verdict.unmatched ≠ []
  /-- If something was unexpected, it is listed. -/
  unexpected : verdict.status = .unexpectedDiagnostic → verdict.unexpected ≠ []
  /-- What was not met is listed in source order. -/
  inSourceOrder : verdict.unmatched.Sublist verdict.testCase.expectations
  /-- What was unexpected is listed in the order of the output. -/
  inOutputOrder : verdict.unexpected.Sublist output.diagnostics

/-- A status that a compiler run imposes is one of two. -/
theorem eq_of_imposedStatus? {status : Status} (imposed : imposedStatus? output = some status) :
    status = .timeout ∨ status = .compilerCrash := by
  unfold imposedStatus? at imposed
  split at imposed
  · exact .inl (Option.some.inj imposed).symm
  · split at imposed
    · exact .inr (Option.some.inj imposed).symm
    · cases imposed

/-- A verdict that needs no look at the diagnostics has grounds if its status says nothing of them. -/
theorem isGrounded_plain {status : Status}
    (known : status = .timeout ∨ status = .compilerCrash ∨ status = .unexpectedSuccess) :
    (plain testCase status).IsGrounded output := by
  refine ⟨.inr ?_, ?_, ?_, List.nil_sublist _, List.nil_sublist _⟩
  · rcases known with rfl | rfl | rfl <;> rfl
  · rcases known with rfl | rfl | rfl <;> exact nofun
  · rcases known with rfl | rfl | rfl <;> exact nofun

/-- A verdict that a compiler run imposes has grounds. -/
theorem isGrounded_of_imposed {status : Status} (imposed : imposedStatus? output = some status) :
    (plain testCase status).IsGrounded output := by
  rcases eq_of_imposedStatus? imposed with stopped | broken
  · exact isGrounded_plain (.inl stopped)
  · exact isGrounded_plain (.inr (.inl broken))

/-- The verdict on a case among others has grounds. -/
theorem isGrounded_of_judgeCase (listed : stray.Sublist output.diagnostics)
    (judged : judgeCase here stray testCase = .ok verdict) : verdict.IsGrounded output := by
  have decided := (isOn_of_judgeCase judged).decided
  obtain ⟨⟨matched, unmatched⟩, lined, equal⟩ := Except.bind_eq_ok_iff.mp judged
  have missing : unmatched.Sublist testCase.expectations := by
    rw [(lined_of_lineUp lined).2.2]
    exact List.filter_sublist
  cases Except.ok.inj equal
  refine ⟨decided, fun status => ?_, fun status => ?_, missing, listed⟩
  · -- Without anything missing the status would be another one.
    rintro rfl
    cases stray <;> cases status
  · rintro rfl
    cases unmatched <;> cases status

/-- All verdicts on the cases of a whole fragment have grounds. -/
theorem isGrounded_of_judgeWhole {verdicts : List Verdict}
    (judged : judgeWhole surroundings fragment output workdir = .ok verdicts) :
    ∀ verdict ∈ verdicts, verdict.IsGrounded output := by
  intro verdict member
  unfold judgeWhole at judged
  split at judged
  next status imposed =>
    cases Except.ok.inj judged
    obtain ⟨testCase, -, rfl⟩ := List.mem_map.mp member
    exact isGrounded_of_imposed imposed
  · split at judged
    · cases Except.ok.inj judged
      obtain ⟨testCase, -, rfl⟩ := List.mem_map.mp member
      exact isGrounded_plain (.inr (.inr rfl))
    · obtain ⟨here, -, next⟩ := Except.bind_eq_ok_iff.mp judged
      obtain ⟨stray, left, each⟩ := Except.bind_eq_ok_iff.mp next
      have listed : stray.Sublist output.diagnostics := by
        rw [eq_filter_of_strayErrors left]
        exact List.filter_sublist.trans List.filter_sublist
      obtain ⟨testCase, -, own⟩ := (Except.mapM_eq_ok_iff.mp each).exists_of_mem_right member
      exact isGrounded_of_judgeCase listed own

/-- The verdict on a case by itself has grounds, and unless its status was clear before the output was
searched, its lists say what was found. -/
theorem isGrounded_of_judgeSingle (judged : judgeSingle testCase output = .ok verdict) :
    verdict.IsGrounded output ∧
      (verdict.status = .passed ∨ verdict.status = .expectationMismatch → verdict.IsSearched output) := by
  have decided := (isOn_of_judgeSingle judged).decided
  unfold judgeSingle at judged
  split at judged
  next status imposed =>
    cases Except.ok.inj judged
    refine ⟨isGrounded_of_imposed imposed, fun searched => ?_⟩
    rcases eq_of_imposedStatus? imposed with rfl | rfl <;> rcases searched with same | same <;> cases same
  · split at judged
    · cases Except.ok.inj judged
      refine ⟨isGrounded_plain (.inr (.inr rfl)), fun searched => ?_⟩
      rcases searched with same | same <;> cases same
    · obtain ⟨⟨matched, unmatched⟩, sorted, equal⟩ := Except.bind_eq_ok_iff.mp judged
      have sorts := sorts_of_search sorted
      have missing : unmatched.Sublist testCase.expectations := by
        rw [sorts.unmatched_eq]
        exact List.filter_sublist
      cases Except.ok.inj equal
      refine ⟨⟨decided, fun status => ?_, fun status => ?_, missing, List.nil_sublist _⟩, fun _ =>
        ⟨rfl, sorts.unmatched_eq, fun _ => sorts.of_mem_matched, fun _ => sorts.hidden_of_notMem⟩⟩
      · rintro rfl
        cases status
      · cases unmatched <;> cases status

/-! ## Reasons -/

/-- A text that starts with something is not empty. -/
theorem append_ne_empty {before : String} (filled : before ≠ "") (after : String) :
    before ++ after ≠ "" := by
  intro empty
  exact filled (String.append_eq_empty_iff.mp empty).1

/-- Parts with a separator between them are no empty text if the first part is none. -/
theorem intercalate_ne_empty {separator first : String} (filled : first ≠ "") (rest : List String) :
    separator.intercalate (first :: rest) ≠ "" := by
  cases rest with
  | nil =>
    rw [String.intercalate_singleton]
    exact filled
  | cons next rest =>
    rw [String.intercalate_cons_cons]
    exact append_ne_empty (append_ne_empty filled _) _

/-- A text around a piece holds the piece. -/
theorem containsString_append (before piece after : String) :
    containsString (before ++ piece ++ after) piece = true := by
  rw [containsString, occursIn_iff, String.toList_append, String.toList_append]
  exact List.infix_append _ _ _

/-- The reason for a verdict says why the case failed. -/
structure IsExplained (output : CompileOutput) (verdict : Verdict) : Prop where
  /-- There is no reason just if the case passed. -/
  empty_iff : verdict.explain (some output) = "" ↔ verdict.passed = true
  /-- The reason for what does not line up has a part for each expectation that was not met, which shows
  it, and after these one for each error that was not expected, which shows its line. -/
  reason : verdict.status = .expectationMismatch ∨ verdict.status = .unexpectedDiagnostic →
    ∃ missing strays, verdict.explain (some output) = "; ".intercalate (missing ++ strays) ∧
      List.Forall₂ (fun expectation part => containsString part expectation.describe = true)
        verdict.unmatched missing ∧
      List.Forall₂ (fun diagnostic part => containsString part diagnostic.render = true)
        verdict.unexpected strays
  /-- What was not met is listed in source order. -/
  inSourceOrder : verdict.unmatched.Sublist verdict.testCase.expectations
  /-- What was unexpected is listed in the order of the output. -/
  inOutputOrder : verdict.unexpected.Sublist output.diagnostics

/-- The reason for what does not line up has all mismatches for its parts. -/
theorem explain_of_mismatch
    (status : verdict.status = .expectationMismatch ∨ verdict.status = .unexpectedDiagnostic) :
    verdict.explain (some output) = "; ".intercalate verdict.mismatches := by
  unfold explain
  rcases status with status | status <;> rw [status]

/-- There is a reason for what does not line up if something is listed. -/
theorem intercalate_mismatches_ne_empty
    (listed : verdict.unmatched ≠ [] ∨ verdict.unexpected ≠ []) :
    "; ".intercalate verdict.mismatches ≠ "" := by
  unfold mismatches
  cases unmatched : verdict.unmatched with
  | cons expectation rest =>
    exact intercalate_ne_empty (append_ne_empty (append_ne_empty (by decide) _) _) _
  | nil =>
    cases unexpected : verdict.unexpected with
    | cons diagnostic rest => exact intercalate_ne_empty (append_ne_empty (by decide) _) _
    | nil => simp [unmatched, unexpected] at listed

/-- A verdict that has grounds is explained. -/
theorem IsGrounded.isExplained (grounded : verdict.IsGrounded output) : verdict.IsExplained output := by
  refine ⟨?_, fun status => ?_, grounded.inSourceOrder, grounded.inOutputOrder⟩
  · have unlisted : verdict.status = .expectationMismatch ∨ verdict.status = .unexpectedDiagnostic →
        verdict.explain (some output) ≠ "" := by
      intro status
      rw [explain_of_mismatch status]
      exact intercalate_mismatches_ne_empty (status.imp grounded.mismatch grounded.unexpected)
    have decided := grounded.decided
    -- Grounds matter for the two mismatches only; the other statuses have fixed reasons.
    unfold passed
    cases status : verdict.status with
    | passed => simp [explain, status]
    | expectationMismatch => simpa using unlisted (.inl status)
    | unexpectedDiagnostic => simpa using unlisted (.inr status)
    | unexpectedSuccess => simp [explain, status]
    | compilerCrash =>
      have worded : verdict.explain (some output) ≠ "" := by
        rw [explain, status]
        exact append_ne_empty (append_ne_empty (by decide) _) _
      simpa using worded
    | timeout => simp [explain, status]
    | skipped => simp [status, Status.isFailure] at decided
    | other name => simp [status, Status.isFailure] at decided
  · refine ⟨_, _, explain_of_mismatch status, ?_, ?_⟩
    · rw [List.forall₂_map_right_iff, List.forall₂_same]
      exact fun expectation _ => containsString_append _ _ _
    · rw [List.forall₂_map_right_iff, List.forall₂_same]
      intro diagnostic _
      have shown := containsString_append "unexpected diagnostic: " diagnostic.render ""
      rw [String.append_empty] at shown
      exact shown

end Verdict

/-- Whatever verdicts are given are explained, be it on the cases of a whole fragment or on a case by
itself. If a case was judged by itself by what the compiler printed, then the verdict says where its
expectations were found. -/
theorem verdicts_explained (surroundings : Surroundings) (workdir : Option Path) (fragment : Fragment)
    (testCase : TestCase) (output : CompileOutput) :
    (∀ verdicts, Verdict.judgeWhole surroundings fragment output workdir = .ok verdicts →
      ∀ verdict ∈ verdicts, verdict.testCase ∈ fragment.enabledCases ∧ verdict.IsExplained output) ∧
    ∀ verdict, Verdict.judgeSingle testCase output = .ok verdict →
      verdict.testCase = testCase ∧ verdict.IsExplained output ∧
        (verdict.status = .passed ∨ verdict.status = .expectationMismatch →
          verdict.IsSearched output) := by
  refine ⟨fun verdicts judged verdict member => ⟨?_, ?_⟩, fun verdict judged => ?_⟩
  · rw [← Verdict.map_testCase_of_judgeWhole judged]
    exact List.mem_map_of_mem member
  · exact (Verdict.isGrounded_of_judgeWhole judged verdict member).isExplained
  · obtain ⟨grounded, searched⟩ := Verdict.isGrounded_of_judgeSingle judged
    exact ⟨(Verdict.isOn_of_judgeSingle judged).testCase_eq, grounded.isExplained, searched⟩

namespace Sample

/-- A text that the case by itself expects. -/
def expected (text : String) : Expectation := ⟨"A", text, false, none, .error⟩

/-- A case that is judged by itself and expects three texts. -/
def singleCase : TestCase :=
  ⟨"A", ⟨1, 3⟩, [expected "foo", expected "bar", expected "near"], true, some "NCTEST_A"⟩

/-- What the compiler says of it: the last text stands outside of diagnostics, and the second one
nowhere. -/
def singleOutput : CompileOutput :=
  { Sample.output with output := "a.nc:1: error: foo\nnear y\n" }

/-- The verdict on it. -/
def singleVerdict : Verdict where
  testCase := singleCase
  status := .expectationMismatch
  matched := [(expected "foo", ⟨"a.nc", 1, none, .error, "foo"⟩)]
  unmatched := [expected "bar"]
  unexpected := []
  missingPatterns := ["bar"]

end Sample

/-- The second verdict on the sample is explained, and so is the one on a case by itself, which says where
each text was found. -/
theorem verdicts_explained_sample :
    Verdict.judgeWhole ⟨Sample.tree, []⟩ Sample.fragment Sample.output none =
        .ok [Sample.firstVerdict, Sample.secondVerdict] ∧
      Sample.secondVerdict.IsExplained Sample.output ∧
      Verdict.judgeSingle Sample.singleCase Sample.singleOutput = .ok Sample.singleVerdict ∧
      Sample.singleVerdict.IsExplained Sample.singleOutput ∧
      Sample.singleVerdict.IsSearched Sample.singleOutput := by
  have single : Verdict.judgeSingle Sample.singleCase Sample.singleOutput = .ok Sample.singleVerdict :=
    Except.eq_ok_of_toOption (by decide)
  obtain ⟨whole, -⟩ := verdicts_explained ⟨Sample.tree, []⟩ none Sample.fragment Sample.singleCase
    Sample.output
  obtain ⟨-, alone⟩ := verdicts_explained ⟨Sample.tree, []⟩ none Sample.fragment Sample.singleCase
    Sample.singleOutput
  obtain ⟨-, explained, searched⟩ := alone _ single
  obtain ⟨-, second⟩ := whole _ Sample.judgeWhole_fragment Sample.secondVerdict
    (List.mem_cons_of_mem _ List.mem_cons_self)
  exact ⟨Sample.judgeWhole_fragment, second, single, explained, searched (.inr rfl)⟩

end NegativeCompile
