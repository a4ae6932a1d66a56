import NegativeCompile.Proofs.Run.Settling

/-! # Filtering is restriction

Patterns of names change which cases have results, and nothing else: the results of a run with
patterns are those results of the run without them that are about cases whose names match. In
particular a case that is judged together with others is still judged by what all of them expect,
selected or not (`filtered_run_restricts`). -/

namespace NegativeCompile

open Files

variable {σ : Type} {surroundings other : Surroundings} {settings : Settings} {options : RunOptions}
variable {find : Action Unit} {compile : Job → Action CompileOutput}
variable {outputOf : Job → CompileOutput} {workdir : Option Path} {outputDir : Path}
variable {key : String} {fragment : Fragment} {testCase : TestCase}
variable {compiled : CompiledJobs} {observe : Observer σ} {paths : List Path} {state last : σ}
variable {item whole part : FragmentResult} {items results : List FragmentResult}
variable {machine : Machine} {world ready after : World}

/-! ## Runs without patterns -/

/-- The same options without patterns. -/
def RunOptions.unfiltered (options : RunOptions) : RunOptions := { options with cases := [] }

/-- Without patterns every case is selected. -/
theorem RunOptions.selects_unfiltered : options.unfiltered.selects testCase = true := rfl

/-- Without patterns all enabled cases are chosen. -/
theorem RunOptions.mem_chosenCases_unfiltered (chosen : testCase ∈ options.chosenCases fragment) :
    testCase ∈ options.unfiltered.chosenCases fragment := by
  obtain ⟨present, enabled, -⟩ := mem_chosenCases.mp chosen
  exact mem_chosenCases.mpr ⟨present, enabled, selects_unfiltered⟩

/-- With patterns no job is planned that is not planned without them. -/
theorem mem_plannedJobs_unfiltered {job : Job} (planned : job ∈ plannedJobs settings options items) :
    job ∈ plannedJobs settings options.unfiltered items := by
  obtain ⟨item, member, fragment, holds, testCase, chosen, rfl⟩ := mem_plannedJobs.mp planned
  exact own_mem_plannedJobs settings member holds (RunOptions.mem_chosenCases_unfiltered chosen)

/-! ## Compilers that are functions -/

/-- A compiler is steady on a machine if it gives an output for every job, which is a function of the
job, and neither looking for it nor running it moves files. -/
structure Steady (machine : Machine) (find : Action Unit) (compile : Job → Action CompileOutput)
    (outputOf : Job → CompileOutput) : Prop where
  /-- There is an output for every job. -/
  gives : ∀ job world, ∃ after, (compile job).perform machine world = (.ok (outputOf job), after)
  /-- Running the compiler moves no files. -/
  compiles : ∀ job, Action.KeepsPaths (compile job)
  /-- Looking for the compiler moves no files. -/
  finds : Action.KeepsPaths find

namespace Steady

/-- The output that a steady compiler gives for a job is a function of the job. -/
theorem answers (steady : Steady machine find compile outputOf) :
    Answers machine compile outputOf := by
  intro job world output after succeeds
  obtain ⟨last, given⟩ := steady.gives job world
  rw [given] at succeeds
  exact (Except.ok.inj (Prod.mk.inj succeeds).1).symm

/-- A steady compiler gets all jobs done. -/
theorem exists_compileFrom (steady : Steady machine find compile outputOf) (world : World)
    (serial : Nat) (jobs : List Job) :
    ∃ compiled after, (compileFrom compile serial jobs).perform machine world =
      (.ok compiled, after) := by
  induction jobs generalizing world serial with
  | nil => exact ⟨[], world, rfl⟩
  | cons job rest ih =>
    obtain ⟨between, given⟩ := steady.gives job world
    obtain ⟨others, after, done⟩ := ih between (serial + 1)
    refine ⟨(job.identity, ⟨serial, outputOf job⟩) :: others, after, ?_⟩
    rw [compileFrom, Action.perform_bind_of_ok given, Action.perform_bind_of_ok done]
    rfl

/-- A steady compiler that was found for some jobs gets others done as well. -/
theorem exists_compilePlanned (steady : Steady machine find compile outputOf) {jobs others : List Job}
    (needed : others ≠ [] → jobs ≠ [])
    (done : (compilePlanned settings options.unfiltered find compile jobs).perform machine world =
      (.ok compiled, ready)) :
    ∃ table after, (compilePlanned settings options find compile others).perform machine world =
      (.ok table, after) := by
  rw [compilePlanned]
  split
  · exact ⟨[], world, rfl⟩
  next some_job =>
    -- Some job is left, so there was one without patterns, and the compiler was found.
    have needs : ¬ jobs.isEmpty = true := by
      rw [List.isEmpty_iff] at some_job ⊢
      exact needed some_job
    rw [compilePlanned, if_neg needs] at done
    obtain ⟨_, found, finds, rest⟩ := Action.perform_bind_eq_ok_iff.mp done
    rw [Action.perform_bind_of_ok finds]
    obtain ⟨_, both⟩ := compileJobs_eq_ok_iff compile (options.jobsFor settings) jobs machine found
    have workers := ((both compiled ready).mp rest).1
    obtain ⟨errors, also⟩ := compileJobs_eq_ok_iff compile (options.jobsFor settings) others machine
      found
    obtain ⟨table, after, done⟩ :=
      steady.exists_compileFrom (found.withErrors errors) 0 others
    exact ⟨table, after, (also table after).mpr ⟨workers, done⟩⟩

/-- With patterns a run can be prepared if it can without them, and the same is read. -/
theorem exists_prepare (steady : Steady machine find compile outputOf)
    (prepared : (prepare settings options.unfiltered find compile paths).perform machine world =
      (.ok (items, compiled), ready)) :
    ∃ table after, (prepare settings options find compile paths).perform machine world =
      (.ok (items, table), after) := by
  obtain ⟨loaded, read, done⟩ := prepare_eq_ok_iff.mp prepared
  have needed : plannedJobs settings options items ≠ [] →
      plannedJobs settings options.unfiltered items ≠ [] := by
    intro some_job
    obtain ⟨job, planned⟩ := List.exists_mem_of_ne_nil _ some_job
    exact List.ne_nil_of_mem (mem_plannedJobs_unfiltered planned)
  obtain ⟨table, after, compiles⟩ := steady.exists_compilePlanned needed done
  exact ⟨table, after, prepare_eq_ok_iff.mpr ⟨loaded, read, compiles⟩⟩

/-- Preparing a run changes nothing about what paths lead to. -/
theorem resolve_eq (steady : Steady machine find compile outputOf)
    (prepared : (prepare settings options find compile paths).perform machine world =
      (.ok (items, compiled), ready)) :
    Surroundings.resolve ⟨ready.tree, machine.here⟩ =
      Surroundings.resolve ⟨world.tree, machine.here⟩ := by
  obtain ⟨loaded, read, done⟩ := prepare_eq_ok_iff.mp prepared
  rw [(keepsPaths_compilePlanned steady.finds steady.compiles _).resolve_eq done,
    (loadFragments_eq_ok read).2.2]

end Steady

/-! ## Restrictions -/

/-- What was found out about a case, whatever the number of the compiler run. -/
def CaseResult.unnumbered (result : CaseResult) : CaseResult :=
  { result with compilation := result.compilation.map fun compilation => ⟨0, compilation.output⟩ }

/-- A result of a fragment is the restriction of another one: it is about the same fragment and says
the same of those cases whose names match one of the patterns, and nothing of others. -/
structure RestrictedTo (options : RunOptions) (whole part : FragmentResult) : Prop where
  /-- The results are about the same fragment. -/
  about : part.path = whole.path ∧ part.key = whole.key ∧ part.fragment = whole.fragment ∧
    part.error = whole.error
  /-- The cases are those whose names match. -/
  cases_eq : part.cases.map CaseResult.unnumbered =
    (whole.cases.filter fun found => options.cases.any fun pattern =>
      Wildcard.matchesName pattern found.testCase.name).map CaseResult.unnumbered

/-- Where generated tests are does not matter for restrictions. -/
theorem RestrictedTo.returned {wholes parts : List FragmentResult}
    (restricted : List.Forall₂ (RestrictedTo options) wholes parts) :
    List.Forall₂ (RestrictedTo options) (returned settings options.unfiltered wholes)
      (returned settings options parts) := by
  have writes : options.unfiltered.writesArtifacts settings = options.writesArtifacts settings := rfl
  rw [NegativeCompile.returned, NegativeCompile.returned, writes]
  split
  · rw [List.forall₂_map_left_iff, List.forall₂_map_right_iff]
    exact restricted.imp fun _ _ one => ⟨one.about, one.cases_eq⟩
  · exact restricted

/-- If there are patterns, the selected cases are those whose names match one of them. -/
theorem RunOptions.selects_of_patterns (patterns : options.cases ≠ []) (testCase : TestCase) :
    options.selects testCase =
      options.cases.any fun pattern => Wildcard.matchesName pattern testCase.name := by
  rw [selects, List.isEmpty_eq_false_iff.mpr patterns, Bool.false_or]

/-- Two results of a case by the same output say the same. -/
theorem ResultOf.unnumbered_eq (distinct : (fragment.cases.map (·.name)).Nodup)
    (same : surroundings.resolve = other.resolve) {first second : CaseResult}
    (found : ResultOf surroundings workdir (RanAs outputOf) outputDir key fragment testCase first)
    (also : ResultOf other workdir (RanAs outputOf) outputDir key fragment testCase second) :
    first.unnumbered = second.unnumbered := by
  cases found with
  | skipped disabled => rw [(of_disabled_iff disabled).mp also]
  | judged enabled ran own =>
    obtain ⟨compilation, ran', verdict, own', rfl⟩ := (of_enabled_iff enabled).mp also
    -- Both compiler runs are of the same job and so gave the same output.
    rw [RanAs] at ran ran'
    rw [ran] at own
    rw [ran'] at own'
    rw [(own.congr same).unique distinct own']
    simp only [CaseResult.unnumbered, CaseResult.ofVerdict, Option.map_some, ran, ran']

/-- What is collected with patterns is the restriction of what is collected without them. -/
theorem Collected.restricted (patterns : options.cases ≠ [])
    (distinct : ∀ fragment, item.fragment = some fragment → (fragment.cases.map (·.name)).Nodup)
    (fresh : item.cases = []) (same : surroundings.resolve = other.resolve)
    (all : Collected surroundings options.unfiltered workdir (RanAs outputOf) outputDir item whole)
    (some_of : Collected other options workdir (RanAs outputOf) outputDir item part) :
    RestrictedTo options whole part := by
  cases all with
  | unread holds =>
    rw [(unread_iff holds).mp some_of]
    refine ⟨⟨rfl, rfl, rfl, rfl⟩, ?_⟩
    rw [fresh]
    rfl
  | @read fragment cases holds each =>
    obtain ⟨selected, every, rfl⟩ := (read_iff holds).mp some_of
    refine ⟨⟨rfl, rfl, rfl, rfl⟩, ?_⟩
    have unselected : fragment.cases.filter options.unfiltered.selects = fragment.cases :=
      List.filter_eq_self.mpr fun _ _ => RunOptions.selects_unfiltered
    rw [unselected] at each
    -- A result is kept just if its case is, so what is kept of the results is in step with the
    -- selected cases.
    have kept : List.Forall₂
        (ResultOf surroundings workdir (RanAs outputOf) outputDir item.key fragment)
        (fragment.cases.filter options.selects)
        (cases.filter fun found => options.cases.any fun pattern =>
          Wildcard.matchesName pattern found.testCase.name) := by
      refine each.filter_of_agree fun testCase found rests => ?_
      rw [RunOptions.selects_of_patterns patterns, rests.testCase_eq]
    refine List.Forall₂.map_eq_map (every.of_common kept fun testCase _ first second found also => ?_)
    exact found.unnumbered_eq (distinct fragment holds) same.symm also

/-! ## Runs with patterns -/

/-- If all results are found without patterns, they are with patterns, and these are restrictions of
those. -/
theorem exists_judgeAll_restricted (patterns : options.cases ≠ [])
    (steady : Steady machine find compile outputOf) {table : CompiledJobs} {filtered : World}
    {wholes : List FragmentResult}
    (preparedAll : (prepare settings options.unfiltered find compile paths).perform machine world =
      (.ok (items, compiled), ready))
    (prepared : (prepare settings options find compile paths).perform machine world =
      (.ok (items, table), filtered))
    (judged : judgeAll ⟨ready.tree, machine.here⟩ options.unfiltered settings.compiler.workdir
      compiled items = .ok wholes) :
    ∃ parts, judgeAll ⟨filtered.tree, machine.here⟩ options settings.compiler.workdir table items =
        .ok parts ∧
      List.Forall₂ (RestrictedTo options) wholes parts := by
  have all := Loaded.of_prepare prepared
  have doneAll := CompiledAs.of_prepare steady.answers preparedAll
  have done := CompiledAs.of_prepare steady.answers prepared
  have same : Surroundings.resolve ⟨ready.tree, machine.here⟩ =
      Surroundings.resolve ⟨filtered.tree, machine.here⟩ :=
    (steady.resolve_eq preparedAll).trans (steady.resolve_eq prepared).symm
  have found := ((all.judgeAll_eq_ok_iff doneAll).mp judged).imp_of_mem
    fun item member whole collected => collected.ranAs all member doneAll
  have each : ∀ item ∈ items, ∃ part, Collected ⟨filtered.tree, machine.here⟩ options
      settings.compiler.workdir (RanIn table) settings.outputDir item part := by
    intro item member
    obtain ⟨whole, -, collected⟩ := found.exists_of_mem_left member
    refine done.exists_collected all member fun fragment holds testCase chosen => ?_
    obtain ⟨verdict, own⟩ :=
      collected.exists_own holds (RunOptions.mem_chosenCases_unfiltered chosen)
    exact ⟨verdict, own.congr same⟩
  obtain ⟨parts, collectedParts⟩ := List.exists_forall₂ each
  refine ⟨parts, (all.judgeAll_eq_ok_iff done).mpr collectedParts, ?_⟩
  refine found.of_common collectedParts fun item member whole part collected collectedPart => ?_
  exact collected.restricted patterns (all.nodup_names item member) (all.cases_eq_nil item member)
    same (collectedPart.ranAs all member done)

/-- For a steady compiler, patterns of names restrict a run to the cases whose names match. If the run
without patterns returns, the run with patterns returns as long as what it finds can be announced,
and its results are the restrictions of those of the run without patterns. -/
theorem filtered_run_restricts (patterns : options.cases ≠ [])
    (steady : Steady machine find compile outputOf)
    (quiet : ∀ state result index total, Action.KeepsPaths (observe state result index total))
    {all : RunResult}
    (whole : (runWith settings options.unfiltered find compile paths observe state).perform machine
      world = (.ok (all, last), after)) :
    (∀ part last after,
      (runWith settings options find compile paths observe state).perform machine world =
          (.ok (part, last), after) →
        List.Forall₂ (RestrictedTo options) all.fragments part.fragments) ∧
    ((∀ items table found parts,
      (prepare settings options find compile paths).perform machine world =
          (.ok (items, table), found) →
        judgeAll ⟨found.tree, machine.here⟩ options settings.compiler.workdir table items =
            .ok parts →
          ∃ written last after, (announce settings options observe state parts).perform machine
            found = (.ok (written, last), after)) →
      ∃ part last after,
        (runWith settings options find compile paths observe state).perform machine world =
          (.ok (part, last), after)) := by
  obtain ⟨items, compiled, ready, preparedAll⟩ := exists_prepare_of_runWith whole
  obtain ⟨table, filtered, prepared⟩ := steady.exists_prepare preparedAll
  obtain ⟨wholes, judgedAll, writtenAll, announcedAll, rfl⟩ :=
    (runWith_eq_ok_iff quiet preparedAll).mp whole
  obtain ⟨parts, judged, restricted⟩ :=
    exists_judgeAll_restricted patterns steady preparedAll prepared judgedAll
  constructor
  · intro part last after returns
    obtain ⟨again, judged', written, announced, rfl⟩ := (runWith_eq_ok_iff quiet prepared).mp returns
    cases Except.ok.inj (judged.symm.trans judged')
    dsimp only
    rw [eq_of_announce announcedAll, eq_of_announce announced]
    exact RestrictedTo.returned restricted
  · intro announces
    obtain ⟨written, last, after, announced⟩ := announces items table filtered parts prepared judged
    exact ⟨_, last, after, (runWith_eq_ok_iff quiet prepared).mpr
      ⟨parts, judged, written, announced, rfl⟩⟩

/-- Selecting the first case of the sample restricts its results, and both runs return. -/
theorem filtered_run_sample :
    ∃ options : RunOptions, options.cases ≠ [] ∧ ∃ all part : RunResult, ∃ after last : World,
      (runWith Sample.settings options.unfiltered (return ()) Sample.compile [Sample.source]
          Observer.silent ()).perform Sample.machine Sample.world = (.ok (all, ()), after) ∧
      (runWith Sample.settings options (return ()) Sample.compile [Sample.source]
          Observer.silent ()).perform Sample.machine Sample.world = (.ok (part, ()), last) ∧
      List.Forall₂ (RestrictedTo options) all.fragments part.fragments := by
  let options : RunOptions := { cases := ["line_1"], writeArtifacts := some false }
  have steady : Steady Sample.machine (return ()) Sample.compile fun _ => Sample.output :=
    ⟨fun _ world => ⟨world, rfl⟩, fun _ => .pure _, .pure ()⟩
  have chosenAll : options.unfiltered.chosenCases Sample.fragment ≠ [] := by decide
  have chosen : options.chosenCases Sample.fragment ≠ [] := by decide
  obtain ⟨all, after, whole⟩ := Sample.exists_runWith (by decide) chosenAll rfl
  obtain ⟨part, last, filtered⟩ := Sample.exists_runWith (by decide) chosen rfl
  have patterns : options.cases ≠ [] := List.cons_ne_nil _ _
  have restricts := (filtered_run_restricts patterns steady Observer.keepsPaths_silent whole).1
  exact ⟨options, patterns, all, part, after, last, whole, filtered,
    restricts part () last filtered⟩

end NegativeCompile
