import NegativeCompile.Proofs.Schema.Following
import NegativeCompile.Proofs.Job.JobFiles

/-! # Reports

The report on a run follows the schema of reports, and what it sums up is what it lists
(`report_of_runWith`). Both rest on three facts about the results of cases: a case covers lines, which
known dialects see to, and its status is one of those that tests end with, so that it is counted as
passed, failed or skipped and as nothing else. -/

namespace NegativeCompile

open Files

variable {found : CaseResult} {cases : List CaseResult} {result : FragmentResult}
variable {results : List FragmentResult} {run : RunResult} {status : Status}

/-! ## Statuses -/

/-- A test ends with a status if it passed, failed or was skipped. -/
theorem Status.mem_all (decided : (status = .passed ∨ status.isFailure = true) ∨ status = .skipped) :
    status ∈ Status.all := by
  cases status <;> simp_all [Status.all, Status.isFailure]

/-- The words for the statuses that are failures. -/
def Status.failures : List String := (Status.all.filter (·.isFailure)).map (·.name)

/-- A case with a status that tests end with is counted once. -/
theorem CaseResult.counted_once (ended : found.status ∈ Status.all) :
    found.passed.toNat + found.failed.toNat + found.skipped.toNat = 1 := by
  have once : ∀ status ∈ Status.all, (decide (status = .passed)).toNat + status.isFailure.toNat +
      (decide (status = .skipped)).toNat = 1 := by decide
  exact once found.status ended

/-- Cases that each are counted once add up. -/
theorem Counts.total_eq (ended : ∀ found ∈ cases, found.status ∈ Status.all) :
    cases.length = cases.countP (·.passed) + cases.countP (·.failed) + cases.countP (·.skipped) := by
  induction cases with
  | nil => rfl
  | cons found rest ih =>
    have once := found.counted_once (ended found List.mem_cons_self)
    have others := ih fun other member => ended other (List.mem_cons_of_mem _ member)
    have adds (counts : CaseResult → Bool) :
        (found :: rest).countP counts = rest.countP counts + (counts found).toNat := by
      rw [List.countP_cons]
      cases counts found <;> rfl
    rw [adds, adds, adds, List.length_cons]
    omega

/-- A run ends with zero just if no fragment has a message and no case failed. -/
theorem RunResult.exitCode_eq_zero_iff : run.exitCode = 0 ↔ run.counts.failed = 0 ∧ run.errors = 0 := by
  have fine : run.exitCode = 0 ↔ run.passed = true := by
    rw [exitCode]
    split <;> simp_all
  rw [fine, passed, List.all_eq_true, counts, Counts.ofResults, errors, caseResults]
  simp only [List.countP_eq_zero, List.mem_flatMap, FragmentResult.passed, Bool.and_eq_true,
    Option.isNone_iff_eq_none, Bool.not_eq_true', List.any_eq_false]
  constructor
  · intro each
    refine ⟨?_, fun result listed => ?_⟩
    · rintro found ⟨result, listed, member⟩
      exact (each result listed).2 found member
    · rw [(each result listed).1]
      exact Bool.false_ne_true
  · rintro ⟨failures, errors⟩ result listed
    refine ⟨?_, fun found member => failures found ⟨result, listed, member⟩⟩
    simpa using errors result listed

/-! ## Results that can be reported -/

/-- What a report asks of the result of a case. -/
structure CaseResult.IsReportable (found : CaseResult) : Prop where
  /-- The case covers lines. -/
  span : found.testCase.span.IsProper
  /-- Its status is one that tests end with. -/
  ended : found.status ∈ Status.all

/-- What a report asks of the results of a run. -/
structure RunResult.IsReportable (run : RunResult) : Prop where
  /-- Every result of a case can be reported. -/
  cases : ∀ result ∈ run.fragments, ∀ found ∈ result.cases, found.IsReportable
  /-- The run took a number of seconds. -/
  duration : ∀ value, run.duration ≠ .truth value

/-! ## Following the schema -/

namespace Report

open Schema

/-- A line number follows its schema. -/
theorem follows_line {line : Int} (counted : 1 ≤ line) : lineSchema.Follows (.integer line) := by
  rw [lineSchema, follows_ofRules_iff, List.forall_mem_cons, List.forall_mem_singleton,
    Rule.holds_kind_iff, Rule.holds_least_iff]
  refine ⟨⟨.integer, List.mem_singleton_self _, rfl⟩, ?_⟩
  simpa [Json.toDatum, isBelow] using counted

/-- A text that may be missing follows its schema. -/
theorem follows_optionalString (text : Option String) :
    (ofKinds [.string, .null]).Follows (optionalString text) := by
  rw [follows_ofKinds_iff]
  cases text <;> simp [optionalString, Json.toDatum, SchemaKind.holds]

/-- A number that may be missing follows its schema. -/
theorem follows_optionalInteger (number : Option Int) :
    (ofKinds [.integer, .null]).Follows (optionalInteger number) := by
  rw [follows_ofKinds_iff]
  cases number <;> simp [optionalInteger, Json.toDatum, SchemaKind.holds]

/-- A duration that is no truth value follows its schema. -/
theorem follows_duration {duration : Duration} (number : ∀ value, duration ≠ .truth value) :
    (ofKind .number).Follows duration.toJson := by
  rw [follows_ofKind_iff]
  cases duration with
  | whole => rfl
  | fraction => rfl
  | truth value => exact absurd rfl (number value)

/-- The document of an expectation follows its schema. -/
theorem follows_ofExpectation (expectation : Expectation) :
    expectationSchema.Follows (ofExpectation expectation) := by
  refine follows_record (by decide) (by simp) ?_
  simp only [List.forall_mem_cons, List.not_mem_nil, false_implies, implies_true, and_true]
  exact ⟨⟨_, rfl, follows_ofKind_iff.mpr rfl⟩, ⟨_, rfl, follows_ofKind_iff.mpr rfl⟩,
    ⟨_, rfl, follows_ofKind_iff.mpr rfl⟩, ⟨_, rfl, follows_optionalInteger _⟩⟩

/-- The members that tell why a case did not pass fit where a reason is a text. -/
theorem fits_reasonMembers {known : List (String × Schema)}
    (reason : known.lookup "reason" = some (ofKind .string)) :
    ∀ member ∈ reasonMembers found, Fits known member := by
  rw [reasonMembers]
  split
  · simp
  · rw [List.forall_mem_singleton]
    exact ⟨_, reason, follows_ofKind_iff.mpr rfl⟩

/-- The members that list unexpected errors fit where these are texts. -/
theorem fits_unexpectedMembers {known : List (String × Schema)}
    (unexpected : known.lookup "unexpected" = some (listOf (ofKind .string))) :
    ∀ member ∈ unexpectedMembers found, Fits known member := by
  rw [unexpectedMembers]
  split
  · simp
  · split
    · simp
    · rw [List.forall_mem_singleton]
      refine ⟨_, unexpected, follows_listOf_iff.mpr ?_⟩
      rw [List.forall_mem_map]
      exact fun diagnostic _ => follows_ofKind_iff.mpr rfl

/-- The members that show what the compiler did fit where it may have ended with a number and what it
printed is a text. -/
theorem fits_outputMembers {known : List (String × Schema)}
    (exitCode : known.lookup "exit_code" = some (ofKinds [.integer, .null]))
    (printed : known.lookup "output" = some (ofKind .string)) :
    ∀ member ∈ outputMembers found, Fits known member := by
  rw [outputMembers]
  split
  · simp
  · split
    · simp only [List.forall_mem_cons, List.not_mem_nil, false_implies, implies_true, and_true]
      exact ⟨⟨_, exitCode, follows_optionalInteger _⟩, ⟨_, printed, follows_ofKind_iff.mpr rfl⟩⟩
    · simp

/-- The document of a case follows its schema if the case can be reported. -/
theorem follows_ofCase (reportable : found.IsReportable) : caseSchema.Follows (ofCase found) := by
  have status : (Schema.ofRules [.oneText (Status.all.map (·.name))]).Follows
      (.string found.status.name) := by
    rw [follows_ofRules_iff, List.forall_mem_singleton, Rule.holds_oneText_iff]
    exact List.mem_map_of_mem reportable.ended
  have duration : (ofKind .number).Follows found.duration.milliseconds.toJson := by
    refine follows_duration fun value => ?_
    cases found.duration <;> exact nofun
  have first := reportable.span.starts
  have expected : (listOf expectationSchema).Follows
      (.array (found.testCase.expectations.map ofExpectation)) := by
    rw [follows_listOf_iff, List.forall_mem_map]
    exact fun expectation _ => follows_ofExpectation expectation
  refine follows_record (by decide) (by simp) ?_
  simp only [List.forall_mem_append, List.forall_mem_cons, List.not_mem_nil, false_implies,
    implies_true, and_true]
  exact ⟨⟨⟨⟨⟨_, rfl, follows_ofKind_iff.mpr rfl⟩, ⟨_, rfl, status⟩, ⟨_, rfl, duration⟩,
    ⟨_, rfl, follows_line first⟩, ⟨_, rfl, follows_line (first.trans reportable.span.ends)⟩,
    ⟨_, rfl, expected⟩⟩, fits_reasonMembers rfl⟩, fits_unexpectedMembers rfl⟩,
    fits_outputMembers rfl rfl⟩

/-- The document of a fragment follows its schema if its cases can be reported. -/
theorem follows_ofFragment (reportable : ∀ found ∈ result.cases, found.IsReportable) :
    fragmentSchema.Follows (ofFragment result) := by
  have cases : (listOf caseSchema).Follows (.array (result.cases.map ofCase)) := by
    rw [follows_listOf_iff, List.forall_mem_map]
    exact fun found member => follows_ofCase (reportable found member)
  refine follows_record (by decide) (by simp) ?_
  simp only [List.forall_mem_append, List.forall_mem_cons, List.not_mem_nil, false_implies,
    implies_true, and_true]
  refine ⟨⟨⟨_, rfl, follows_ofKind_iff.mpr rfl⟩, ⟨_, rfl, follows_ofKind_iff.mpr rfl⟩,
    ⟨_, rfl, follows_optionalString _⟩, ⟨_, rfl, follows_ofKind_iff.mpr rfl⟩,
    ⟨_, rfl, follows_optionalString _⟩, ⟨_, rfl, cases⟩⟩, ?_⟩
  split
  · simp only [List.forall_mem_singleton]
    exact ⟨_, rfl, follows_ofKind_iff.mpr rfl⟩
  · simp

/-- What sums up a run follows its schema if the run took a number of seconds. -/
theorem follows_summaryOf (number : ∀ value, run.duration ≠ .truth value) :
    summarySchema.Follows (summaryOf run) := by
  refine follows_record (by decide) (by simp) ?_
  simp only [List.forall_mem_cons, List.not_mem_nil, false_implies, implies_true, and_true]
  have count (number : Nat) : (ofKind .integer).Follows (.integer number) :=
    follows_ofKind_iff.mpr rfl
  exact ⟨⟨_, rfl, count _⟩, ⟨_, rfl, count _⟩, ⟨_, rfl, count _⟩, ⟨_, rfl, count _⟩,
    ⟨_, rfl, count _⟩, ⟨_, rfl, count _⟩, ⟨_, rfl, follows_duration number⟩⟩

/-- The document of a run that can be reported follows the schema of reports. -/
theorem follows_ofRun (reportable : run.IsReportable) (now : String) :
    schema.Follows (ofRun now run) := by
  have fragments : (listOf fragmentSchema).Follows (.array (run.fragments.map ofFragment)) := by
    rw [follows_listOf_iff, List.forall_mem_map]
    exact fun result member => follows_ofFragment (reportable.cases result member)
  refine follows_record (by decide) (by simp) ?_
  simp only [List.forall_mem_cons, List.not_mem_nil, false_implies, implies_true, and_true]
  exact ⟨⟨_, rfl, follows_ofKind_iff.mpr rfl⟩, ⟨_, rfl, follows_ofKind_iff.mpr rfl⟩,
    ⟨_, rfl, follows_summaryOf reportable.duration⟩, ⟨_, rfl, fragments⟩⟩

/-- A document that follows the schema passes the check, unless it has a number that is too long to
be shown. -/
theorem checked_eq {now : String} (follows : schema.Follows (ofRun now run)) :
    checked now run =
      if (ofRun now run).toDatum.hasLongNumber then .error longNumber else .ok (ofRun now run) := by
  -- The schema is a closed term, which `unfold` would evaluate.
  delta checked
  rw [Follows] at follows
  simp only [follows]

/-! ## Reading reports -/

/-- The items of a member of a document. -/
def itemsAt (name : String) (document : Json) : List Json :=
  match document.get? name with
  | some (.array items) => items
  | _ => []

/-- The fragments in a report. -/
def fragmentsIn (report : Json) : List Json := itemsAt "fragments" report

/-- The cases of all fragments in a report. -/
def casesIn (report : Json) : List Json := (fragmentsIn report).flatMap (itemsAt "cases")

/-- A number that sums up a report. -/
def summaryAt (name : String) (report : Json) : Option Json :=
  (report.get? "summary").bind (Json.get? name)

/-- Whether a case in a report has one of some statuses. -/
def hasStatus (words : List String) (testCase : Json) : Bool :=
  match testCase.get? "status" with
  | some (.string word) => words.contains word
  | _ => false

/-- Whether a fragment in a report has an error. -/
def hasError (fragment : Json) : Bool := (fragment.get? "error").isSome

/-- A report sums up what it lists, and agrees with the number that the run ends with. -/
structure IsConsistent (report : Json) (code : Int) : Prop where
  /-- All cases are counted. -/
  total : summaryAt "total" report = some (.integer (casesIn report).length)
  /-- Cases that passed are counted. -/
  passed : summaryAt "passed" report =
    some (.integer ((casesIn report).countP (hasStatus [Status.passed.name])))
  /-- Cases that failed are counted. -/
  failed : summaryAt "failed" report =
    some (.integer ((casesIn report).countP (hasStatus Status.failures)))
  /-- Cases that were skipped are counted. -/
  skipped : summaryAt "skipped" report =
    some (.integer ((casesIn report).countP (hasStatus [Status.skipped.name])))
  /-- Every case passed, failed or was skipped, and only one of these. -/
  sum : (casesIn report).length = (casesIn report).countP (hasStatus [Status.passed.name]) +
    (casesIn report).countP (hasStatus Status.failures) +
      (casesIn report).countP (hasStatus [Status.skipped.name])
  /-- Fragments with an error are counted. -/
  errors : summaryAt "errors" report = some (.integer ((fragmentsIn report).countP hasError))
  /-- A fragment passed if it has no error and no case of it failed. -/
  fragment : ∀ fragment ∈ fragmentsIn report, fragment.get? "passed" =
    some (.boolean (!hasError fragment && !(itemsAt "cases" fragment).any (hasStatus Status.failures)))
  /-- The run ends with zero just if no case failed and no fragment has an error. -/
  code_eq_zero_iff : code = 0 ↔
    summaryAt "failed" report = some (.integer 0) ∧ summaryAt "errors" report = some (.integer 0)

/-! ## Summing up -/

section

variable {now : String}

theorem fragmentsIn_ofRun : fragmentsIn (ofRun now run) = run.fragments.map ofFragment := rfl

theorem itemsAt_ofFragment : itemsAt "cases" (ofFragment result) = result.cases.map ofCase := rfl

theorem casesIn_ofRun : casesIn (ofRun now run) = run.caseResults.map ofCase := by
  rw [casesIn, fragmentsIn_ofRun, List.flatMap_map, RunResult.caseResults, List.map_flatMap]
  rfl

theorem hasStatus_ofCase (words : List String) :
    hasStatus words (ofCase found) = words.contains found.status.name := rfl

/-- A fragment in a report has an error just if it has a message. -/
theorem hasError_ofFragment : hasError (ofFragment result) = result.error.isSome := by
  rw [hasError, ofFragment, Json.get?, List.lookup_append]
  cases result.error <;> rfl

/-- The words for statuses are told from each other. -/
theorem contains_name (ended : status ∈ Status.all) :
    [Status.passed.name].contains status.name = decide (status = .passed) ∧
      Status.failures.contains status.name = status.isFailure ∧
      [Status.skipped.name].contains status.name = decide (status = .skipped) := by
  have told : ∀ status ∈ Status.all,
      [Status.passed.name].contains status.name = decide (status = .passed) ∧
        Status.failures.contains status.name = status.isFailure ∧
        [Status.skipped.name].contains status.name = decide (status = .skipped) := by decide
  exact told status ended

/-- Cases with a status are counted in a report as often as in the run. -/
theorem countP_hasStatus {words : List String} {counts : CaseResult → Bool}
    (same : ∀ found ∈ run.caseResults, words.contains found.status.name = counts found) :
    (casesIn (ofRun now run)).countP (hasStatus words) = run.caseResults.countP counts := by
  rw [casesIn_ofRun, List.countP_map]
  refine List.countP_congr fun found member => ?_
  rw [Function.comp, hasStatus_ofCase, same found member]

/-- A case of a fragment failed in a report just if one did in the run. -/
theorem any_hasStatus_failures (ended : ∀ found ∈ result.cases, found.status ∈ Status.all) :
    (result.cases.map ofCase).any (hasStatus Status.failures) = result.cases.any (·.failed) := by
  rw [List.any_map, Bool.eq_iff_iff, List.any_eq_true, List.any_eq_true]
  refine exists_congr fun found => and_congr_right fun member => ?_
  rw [Function.comp, hasStatus_ofCase, (contains_name (ended found member)).2.1]
  rfl

/-- The report on a run that can be reported is consistent. -/
theorem isConsistent_ofRun (reportable : run.IsReportable) (now : String) :
    IsConsistent (ofRun now run) run.exitCode := by
  have ended : ∀ found ∈ run.caseResults, found.status ∈ Status.all := by
    intro found member
    obtain ⟨result, listed, present⟩ := List.mem_flatMap.mp member
    exact (reportable.cases result listed found present).ended
  have passed : (casesIn (ofRun now run)).countP (hasStatus [Status.passed.name]) =
      run.caseResults.countP (·.passed) :=
    countP_hasStatus fun found member => (contains_name (ended found member)).1
  have failed : (casesIn (ofRun now run)).countP (hasStatus Status.failures) =
      run.caseResults.countP (·.failed) :=
    countP_hasStatus fun found member => (contains_name (ended found member)).2.1
  have skipped : (casesIn (ofRun now run)).countP (hasStatus [Status.skipped.name]) =
      run.caseResults.countP (·.skipped) :=
    countP_hasStatus fun found member => (contains_name (ended found member)).2.2
  have total : (casesIn (ofRun now run)).length = run.caseResults.length := by
    rw [casesIn_ofRun, List.length_map]
  have errors : (fragmentsIn (ofRun now run)).countP hasError = run.errors := by
    rw [fragmentsIn_ofRun, List.countP_map, RunResult.errors]
    exact List.countP_congr fun result _ => by rw [Function.comp, hasError_ofFragment]
  -- Six counts of the summary, then whether each fragment passed, then how the program ends.
  refine ⟨?_, ?_, ?_, ?_, ?_, ?_, ?_, ?_⟩
  · rw [total]
    rfl
  · rw [passed]
    rfl
  · rw [failed]
    rfl
  · rw [skipped]
    rfl
  · rw [total, passed, failed, skipped]
    exact Counts.total_eq ended
  · rw [errors]
    rfl
  · rw [fragmentsIn_ofRun, List.forall_mem_map]
    intro result listed
    rw [itemsAt_ofFragment, hasError_ofFragment, any_hasStatus_failures fun found member =>
      (reportable.cases result listed found member).ended, Option.not_isSome]
    rfl
  · have sums (number : Nat) : some (Json.integer number) = some (.integer 0) ↔ number = 0 := by
      simp
    rw [RunResult.exitCode_eq_zero_iff]
    exact and_congr (sums _).symm (sums _).symm

end

end Report

/-! ## Runs -/

section

variable {σ : Type} {settings : Settings} {options : RunOptions} {find : Action Unit}
variable {compile : Job → Action CompileOutput} {observe : Observer σ} {paths : List Path}
variable {state last : σ} {machine : Machine} {world after : World}

/-- The cases of a fragment that a known dialect read cover lines. -/
theorem ReadAs.isProper {registry : Registry} {place : Surroundings} {base path : Path}
    {item : FragmentResult} {fragment : Fragment} (read : ReadAs registry place base path item)
    (holds : item.fragment = some fragment) (known : fragment.IsKnown registry) :
    ∀ testCase ∈ fragment.cases, testCase.span.IsProper := by
  obtain ⟨origin, parsed⟩ := Fragment.exists_parse_of_load (read.load_eq_ok holds)
  obtain ⟨dialect, selected, isKnown⟩ := known
  exact Fragment.isProper_of_parse selected isKnown parsed

/-- The result of a case that covers lines can be reported. -/
theorem ResultOf.isReportable {surroundings : Surroundings} {workdir : Option Path}
    {gave : Job → Compilation → Prop} {outputDir : Path} {key : String} {fragment : Fragment}
    {testCase : TestCase}
    (rests : ResultOf surroundings workdir gave outputDir key fragment testCase found)
    (proper : testCase.span.IsProper) : found.IsReportable := by
  refine ⟨rests.testCase_eq ▸ proper, ?_⟩
  cases rests with
  | skipped => exact Status.mem_all (.inr rfl)
  | judged _ _ own => exact Status.mem_all (.inl own.isOn.decided)

/-- A run on fragments of known dialects can be reported, whatever the compiler and the observer do. -/
theorem isReportable_of_runWith
    (returns : (runWith settings options find compile paths observe state).perform machine world =
      (.ok (run, last), after))
    (known : ∀ result ∈ run.fragments, ∀ fragment, result.fragment = some fragment →
      fragment.IsKnown world.registry) : run.IsReportable := by
  obtain ⟨items, compiled, ready, results, prepared, took, -⟩ := exists_prepare_and_collected returns
  refine ⟨fun result member => ?_, fun value => by rw [took]; exact nofun⟩
  obtain ⟨loaded, read, -⟩ := prepare_eq_ok_iff.mp prepared
  obtain ⟨reads, -, -⟩ := loadFragments_eq_ok read
  have asKnown := known result member
  obtain ⟨item, present, one, surroundings, collected, same⟩ :=
    exists_collected_of_mem returns prepared member
  -- Where its test was written is all that a result gains after it was collected.
  have kept : result.cases = one.cases ∧ result.fragment = one.fragment := by
    rcases same with rfl | rfl <;> exact ⟨rfl, rfl⟩
  rw [kept.1]
  rw [kept.2] at asKnown
  obtain ⟨path, -, readAs⟩ := reads.exists_of_mem_right present
  intro found given
  cases collected with
  | unread =>
    rw [readAs.cases_eq_nil] at given
    cases given
  | read holds cases =>
    obtain ⟨testCase, selected, rests⟩ := cases.exists_of_mem_right given
    have proper := readAs.isProper holds (asKnown _ holds) testCase (List.mem_of_mem_filter selected)
    exact rests.isReportable proper

/-- The report on a run over fragments of known dialects follows the schema, so the check of it can
only fail for a number that is too long to be shown, and the report is consistent, whatever the
compiler and the observer do. -/
theorem report_of_runWith
    (returns : (runWith settings options find compile paths observe state).perform machine world =
      (.ok (run, last), after))
    (known : ∀ result ∈ run.fragments, ∀ fragment, result.fragment = some fragment →
      fragment.IsKnown world.registry) (now : String) :
    Report.schema.violations [] (Report.ofRun now run).toDatum = some [] ∧
      Report.checked now run =
        (if (Report.ofRun now run).toDatum.hasLongNumber then .error Report.longNumber
          else .ok (Report.ofRun now run)) ∧
      Report.IsConsistent (Report.ofRun now run) run.exitCode := by
  have reportable := isReportable_of_runWith returns known
  have follows := Report.follows_ofRun reportable now
  exact ⟨follows, Report.checked_eq follows, Report.isConsistent_ofRun reportable now⟩

/-- A run on the sample, one case of which passes and one of which fails, has such a report. -/
theorem report_of_sample :
    ∃ (options : RunOptions) (run : RunResult) (after : World),
      (runWith Sample.settings options (return ()) Sample.compile Sample.settings.fragments
          Observer.silent ()).perform Sample.machine Sample.world = (.ok (run, ()), after) ∧
        (∀ result ∈ run.fragments, ∀ fragment, result.fragment = some fragment →
          fragment.IsKnown Sample.world.registry) ∧
        Report.schema.violations [] (Report.ofRun "" run).toDatum = some [] ∧
        Report.IsConsistent (Report.ofRun "" run) run.exitCode := by
  let options : RunOptions := { writeArtifacts := some false }
  have chosen : options.chosenCases Sample.fragment ≠ [] := by decide
  obtain ⟨run, after, returns⟩ := Sample.exists_runWith (by decide) chosen rfl
  have known : ∀ result ∈ run.fragments, ∀ fragment, result.fragment = some fragment →
      fragment.IsKnown Sample.world.registry := by
    intro result member fragment holds
    have files : Sample.world.tree = Sample.tree := rfl
    obtain ⟨errors, prepared⟩ := Sample.prepare_settings (by decide) chosen files rfl
    obtain ⟨item, present, one, _, collected, same⟩ :=
      exists_collected_of_mem returns prepared member
    have kept : result.fragment = item.fragment := by
      rcases same with rfl | rfl <;> cases collected <;> rfl
    rw [kept, List.mem_singleton.mp present] at holds
    cases holds
    exact ⟨Inline.dialect, Sample.select_text, .inr (.inl rfl)⟩
  have report := report_of_runWith returns known ""
  exact ⟨options, run, after, returns, known, report.1, report.2.2⟩

end

end NegativeCompile
