import NegativeCompile.Proofs.Artifact.Rendering
import NegativeCompile.Proofs.Run.Settling

/-! # What a generated test vouches for

A generated test without error directives lists the results of a fragment that passed. It vouches
for the fragment (`Vouches`) if it registers all cases of the fragment and all enabled ones passed.
That is so just if all cases were selected (`green_test_vouches_iff`): a test that is written by a
run with patterns stands for the cases whose names match, and nothing in it tells of the others. -/

namespace NegativeCompile

open Files

section

variable {surroundings : Surroundings} {settings : Settings} {options : RunOptions}
variable {workdir : Option Path} {gave : Job → Compilation → Prop} {outputDir : Path}
variable {key suite : String} {fragment : Fragment} {testCase : TestCase}
variable {item result : FragmentResult}

/-! ## Registrations -/

namespace Artifact

/-- The line that registers a case: a disabled case is registered as such. -/
def registration (suite : String) (testCase : TestCase) : String :=
  let name := if testCase.enabled then testCase.name else "DISABLED_" ++ testCase.name
  "TEST(" ++ suite ++ ", " ++ name ++ ") \x7b\x7d"

/-- The test that settings ask for, for a result. -/
def textOf (settings : Settings) (result : FragmentResult) : String :=
  render result settings.artifact.header settings.artifact.suite

/-- The test for a result vouches for the fragment. -/
structure Vouches (settings : Settings) (fragment : Fragment) (result : FragmentResult) : Prop where
  /-- Every case of the fragment is registered, once and in source order. -/
  registers : textOf settings result = ofLines (bannerLines result ++
    includeLines settings.artifact.header ++
      fragment.cases.map (registration (suiteName result.key settings.artifact.suite)))
  /-- Cases are told from each other by their names. -/
  distinct : (fragment.cases.map (·.name)).Nodup
  /-- Every enabled case of the fragment passed. -/
  passed : ∀ testCase ∈ fragment.cases, testCase.enabled = true →
    ∃ found ∈ result.cases, found.testCase = testCase ∧ found.passed = true

end Artifact

/-- The line for the result of a case registers the case. -/
theorem ResultOf.testLine_eq {found : CaseResult}
    (rests : ResultOf surroundings workdir gave outputDir key fragment testCase found) :
    Artifact.testLine suite found = Artifact.registration suite testCase := by
  have skipped : found.skipped = !testCase.enabled := by
    cases rests with
    | skipped disabled =>
      rw [disabled]
      rfl
    | @judged verdict _ enabled _ own =>
      have unskipped : verdict.status ≠ .skipped := by
        intro isSkipped
        rcases own.isOn.decided with isPassed | isFailure
        · rw [isSkipped] at isPassed
          cases isPassed
        · rw [isSkipped] at isFailure
          cases isFailure
      rw [enabled]
      exact decide_eq_false unskipped
  rw [Artifact.testLine, Artifact.registration, skipped, rests.testCase_eq]
  cases testCase.enabled <;> rfl

/-- The lines for results of cases register the cases. -/
theorem ResultOf.map_testLine_eq {cases : List TestCase} {found : List CaseResult}
    (each : List.Forall₂ (ResultOf surroundings workdir gave outputDir key fragment) cases found) :
    found.map (Artifact.testLine suite) = cases.map (Artifact.registration suite) := by
  induction each with
  | nil => rfl
  | cons head _ ih => rw [List.map_cons, List.map_cons, head.testLine_eq, ih]

/-- An enabled case that did not fail passed. -/
theorem ResultOf.passed_of_not_failed {found : CaseResult} (enabled : testCase.enabled = true)
    (rests : ResultOf surroundings workdir gave outputDir key fragment testCase found)
    (fine : found.failed = false) : found.passed = true := by
  obtain ⟨compilation, -, verdict, own, rfl⟩ := (of_enabled_iff enabled).mp rests
  have passed : verdict.status = .passed := by
    refine own.isOn.decided.resolve_right ?_
    rw [Bool.not_eq_true]
    exact fine
  exact decide_eq_true passed

/-! ## Fragments that passed -/

/-- If a fragment passed, its test vouches for it just if all of its cases are selected. -/
theorem Collected.vouches_iff
    (collected : Collected surroundings options workdir gave outputDir item result)
    (holds : item.fragment = some fragment) (distinct : (fragment.cases.map (·.name)).Nodup)
    (passed : result.passed = true) :
    Artifact.Vouches settings fragment result ↔
      ∀ testCase ∈ fragment.cases, options.selects testCase = true := by
  have text : Artifact.textOf settings result = _ := Artifact.render_of_passed passed
  obtain ⟨cases, each, rfl⟩ := (read_iff holds).mp collected
  rw [ResultOf.map_testLine_eq each] at text
  constructor
  · -- The lines for selected cases are as long as the lines for all cases only if these are the same.
    intro vouches testCase present
    have split := (List.filter_append_perm options.selects fragment.cases).map
      (Artifact.registration (Artifact.suiteName item.key settings.artifact.suite))
    rw [List.map_append] at split
    have nothing := Artifact.eq_nil_of_ofLines_eq (List.append_ne_nil_of_left_ne_nil
      (List.cons_ne_nil _ _) _) split (text.symm.trans vouches.registers)
    have unselected := List.filter_eq_nil_iff.mp (List.map_eq_nil_iff.mp nothing) testCase present
    simpa using unselected
  · intro selected
    have everything : fragment.cases.filter options.selects = fragment.cases :=
      List.filter_eq_self.mpr selected
    rw [everything] at text each
    refine ⟨text, distinct, fun testCase present enabled => ?_⟩
    obtain ⟨found, member, rests⟩ := each.exists_of_mem_left present
    rw [FragmentResult.passed, Bool.and_eq_true, Bool.not_eq_true', List.any_eq_false] at passed
    have fine : found.failed = false := Bool.not_eq_true _ ▸ passed.2 found member
    exact ⟨found, member, rests.testCase_eq, rests.passed_of_not_failed enabled fine⟩

/-- Where a test is written does not matter for what it vouches for. -/
theorem Artifact.vouches_withArtifact_iff :
    Vouches settings fragment (result.withArtifact outputDir) ↔ Vouches settings fragment result :=
  ⟨fun vouches => ⟨vouches.registers, vouches.distinct, vouches.passed⟩,
    fun vouches => ⟨vouches.registers, vouches.distinct, vouches.passed⟩⟩

/-- If there is a fragment just if there is no message, a fragment that passed was read. -/
theorem Collected.exists_fragment
    (collected : Collected surroundings options workdir gave outputDir item result)
    (read : item.error = none ↔ item.fragment.isSome) (passed : result.passed = true) :
    ∃ fragment, item.fragment = some fragment ∧ result.fragment = some fragment := by
  have about : result.error = item.error ∧ result.fragment = item.fragment := by
    cases collected <;> exact ⟨rfl, rfl⟩
  rw [FragmentResult.passed, Bool.and_eq_true, Option.isNone_iff_eq_none, about.1, read,
    Option.isSome_iff_exists] at passed
  obtain ⟨⟨fragment, holds⟩, -⟩ := passed
  exact ⟨fragment, holds, about.2.trans holds⟩

end

/-! ## The sample -/

namespace Sample

/-- The patterns that select the first case of the sample only. -/
def patterns : RunOptions := { cases := ["line_1"] }

/-- The result of the sample with these patterns. -/
def firstResult : FragmentResult := { item with cases := [.ofVerdict firstVerdict ⟨0, output⟩] }

/-- The result is collected by the compiler run of the sample. -/
theorem collected_firstResult :
    Collected ⟨tree, []⟩ patterns none (RanIn compiled) settings.outputDir item firstResult := by
  have selected : fragment.cases.filter patterns.selects = [caseAt "line_1" 1 "foo"] := by
    decide
  have ran : RanIn compiled (Job.own fragment item.key settings.outputDir (caseAt "line_1" 1 "foo"))
      ⟨0, output⟩ := rfl
  refine .read rfl ?_
  rw [selected]
  exact .cons (.judged rfl ran (.together rfl judgeWhole_fragment List.mem_cons_self rfl)) .nil

/-- Where the test of the sample is written. -/
def target : Path := .ofParts ["out", "a.nc.cc"]

/-- Any text can be written there. -/
theorem writeFile_target (text : String) :
    ((Artifact.writeFile target text []).run).run tree = (.ok (),
      ⟨tree.entries ++
        [(["out"], .directory), (target.parts, .file (Text.encodeUtf8 text) false)]⟩) := by
  unfold Artifact.writeFile tree
  generalize Text.encodeUtf8 Sample.text = bytes
  generalize Text.encodeUtf8 text = content
  cbv

/-- The test of the sample can be written. -/
theorem exists_writeArtifacts {found : World} (files : found.tree = tree) :
    ∃ after, (writeArtifacts settings [firstResult]).perform machine found =
      (.ok [firstResult.withArtifact settings.outputDir], after) := by
  have place : Artifact.targetOf firstResult settings.outputDir = target := by decide
  have text := writeFile_target (Artifact.textOf settings firstResult)
  rw [← files] at text
  have wrote : ∃ after, (Artifact.write firstResult settings.artifact.header settings.artifact.suite
      (Artifact.targetOf firstResult settings.outputDir)).perform machine found =
        (.ok (firstResult.withArtifact settings.outputDir), after) := by
    rw [FragmentResult.withArtifact, place, Artifact.write]
    exact ⟨_, Action.perform_bind_of_ok (Action.perform_withTree_of_ok text) _⟩
  obtain ⟨after, wrote⟩ := wrote
  exact ⟨after, Action.perform_bind_of_ok wrote _⟩

/-- A run with these patterns returns the result, and has written its test. -/
theorem exists_runWith_patterns :
    ∃ after, (runWith settings patterns (return ()) compile [source] Observer.silent ()).perform
      machine world = (.ok (⟨[firstResult.withArtifact settings.outputDir],
        .fraction (totalDuration compiled)⟩, ()), after) := by
  have chosen : patterns.chosenCases fragment ≠ [] := by decide
  have files : world.tree = tree := rfl
  obtain ⟨errors, prepared⟩ := prepare_settings (by decide) chosen files rfl
  have all := Loaded.of_prepare prepared
  have done := CompiledAs.of_prepare answers_compile prepared
  have judged := (all.judgeAll_eq_ok_iff done).mpr (.cons collected_firstResult .nil)
  have stays : (world.withErrors errors).tree = tree := rfl
  obtain ⟨after, wrote⟩ := exists_writeArtifacts stays
  have announced : (announce settings patterns Observer.silent () [firstResult]).perform machine
      (world.withErrors errors) =
        (.ok ([firstResult.withArtifact settings.outputDir], ()), after) := by
    have writes : patterns.writesArtifacts settings = true := rfl
    rw [announce, Action.perform_bind_of_ok (perform_tellAll_silent machine _ _ 1 _), writeRequested,
      if_pos writes]
    exact Action.perform_bind_of_ok wrote _
  exact ⟨after, (runWith_eq_ok_iff Observer.keepsPaths_silent prepared).mpr
    ⟨_, judged, _, announced, rfl⟩⟩

/-- The test has no error directives. -/
theorem isGreen_firstResult :
    Artifact.IsGreen (Artifact.textOf settings (firstResult.withArtifact settings.outputDir)) := by
  decide +kernel

end Sample

/-! ## Runs -/

/-- A fragment whose generated test has no error directives was read, and the test vouches for it just
if all of its cases were selected. This holds for every result of every run that returns, whatever
the compiler does. -/
theorem green_test_vouches_iff {σ : Type} {settings : Settings} {options : RunOptions}
    {find : Action Unit} {compile : Job → Action CompileOutput} {observe : Observer σ}
    {paths : List Path} {state last : σ} {machine : Machine} {world after : World} {run : RunResult}
    {result : FragmentResult}
    (returns : (runWith settings options find compile paths observe state).perform machine world =
      (.ok (run, last), after))
    (member : result ∈ run.fragments) (green : Artifact.IsGreen (Artifact.textOf settings result)) :
    ∃ fragment, result.fragment = some fragment ∧
      (Artifact.Vouches settings fragment result ↔
        ∀ testCase ∈ fragment.cases, options.selects testCase = true) := by
  obtain ⟨items, compiled, results, all, equal, each⟩ := exists_collected_of_runWith returns
  have passed := Artifact.passed_of_isGreen green
  -- Where its test was written is all that a result gains after it was collected.
  obtain ⟨found, listed, same⟩ := exists_of_mem_returned (equal ▸ member)
  obtain ⟨item, read, surroundings, collected⟩ := each.exists_of_mem_right listed
  have foundPassed : found.passed = true := by
    rcases same with rfl | rfl <;> exact passed
  obtain ⟨fragment, holds, also⟩ :=
    collected.exists_fragment (all.error_eq_none_iff item read) foundPassed
  have vouches : Artifact.Vouches settings fragment found ↔ _ :=
    collected.vouches_iff holds (all.nodup_names item read fragment holds) foundPassed
  rcases same with rfl | rfl
  · exact ⟨fragment, also, vouches⟩
  · exact ⟨fragment, also, Artifact.vouches_withArtifact_iff.trans vouches⟩

/-- If only the first case of the sample is selected its test is green, and does not vouch for the
fragment since there is another case. -/
theorem green_test_of_selected_case :
    ∃ after run,
      (runWith Sample.settings Sample.patterns (return ()) Sample.compile [Sample.source]
        Observer.silent ()).perform Sample.machine Sample.world = (.ok (run, ()), after) ∧
      ∃ result ∈ run.fragments, Artifact.IsGreen (Artifact.textOf Sample.settings result) ∧
        ∃ fragment, result.fragment = some fragment ∧
          (Artifact.Vouches Sample.settings fragment result ↔
            ∀ testCase ∈ fragment.cases, Sample.patterns.selects testCase = true) := by
  obtain ⟨after, returns⟩ := Sample.exists_runWith_patterns
  exact ⟨after, _, returns, _, List.mem_cons_self, Sample.isGreen_firstResult,
    green_test_vouches_iff returns List.mem_cons_self Sample.isGreen_firstResult⟩

/-- A test without error directives need not vouch for its fragment: that of the sample says nothing
of the second case, which is enabled and does not pass by what the compiler says. -/
theorem green_test_without_case :
    Sample.patterns.writesArtifacts Sample.settings = true ∧ ∃ after run,
      (runWith Sample.settings Sample.patterns (return ()) Sample.compile [Sample.source]
        Observer.silent ()).perform Sample.machine Sample.world = (.ok (run, ()), after) ∧
      ∃ result ∈ run.fragments, result.fragment = some Sample.fragment ∧
        Artifact.IsGreen (Artifact.textOf Sample.settings result) ∧
        ∃ testCase ∈ Sample.fragment.cases, testCase.enabled = true ∧
          ¬ Passes ⟨Sample.tree, []⟩ none Sample.fragment testCase Sample.output ∧
          ∀ line ∈ Artifact.linesOf (Artifact.textOf Sample.settings result),
            line ≠ (Artifact.registration (Artifact.suiteName result.key none) testCase).toList := by
  obtain ⟨after, returns⟩ := Sample.exists_runWith_patterns
  refine ⟨rfl, after, _, returns, _, List.mem_cons_self, rfl, Sample.isGreen_firstResult,
    Sample.caseAt "line_2" 2 "bar", List.mem_cons_of_mem _ List.mem_cons_self, rfl, ?_, ?_⟩
  · rintro ⟨verdict, own, passed⟩
    have distinct : (Sample.fragment.cases.map (·.name)).Nodup := by decide
    have second : OwnVerdict ⟨Sample.tree, []⟩ none Sample.fragment (Sample.caseAt "line_2" 2 "bar")
        Sample.output Sample.secondVerdict :=
      .together rfl Sample.judgeWhole_fragment (List.mem_cons_of_mem _ List.mem_cons_self) rfl
    rw [own.unique distinct second] at passed
    cases passed
  · decide +kernel

end NegativeCompile
