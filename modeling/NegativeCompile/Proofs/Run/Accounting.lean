import NegativeCompile.Proofs.Run.Settling

/-! # No case lost or duplicated

What tells the jobs of a run from each other is distinct for distinct paths, so what is found does
not depend on the order in which jobs are done, and every fragment that was read has one result for
each of its selected cases, in source order: it says that the case is disabled, for which nothing is
compiled, or rests on the output of the own job of the case (`Accounted`). -/

namespace NegativeCompile

open Files

variable {σ : Type} {surroundings : Surroundings} {settings : Settings} {options : RunOptions}
variable {find : Action Unit} {compile : Job → Action CompileOutput}
variable {outputOf : Job → CompileOutput} {workdir : Option Path} {outputDir : Path}
variable {compiled compiled' : CompiledJobs} {observe : Observer σ} {paths : List Path}
variable {item result : FragmentResult} {items : List FragmentResult}
variable {machine : Machine} {world ready : World}

/-! ## Tables in which the same is found -/

/-- Judging and telling in turn depends on a table only through what is found in it. -/
theorem collectAll_congr_table
    (same : ∀ identity, compiled.lookup identity = compiled'.lookup identity) (total index : Nat)
    (state : σ) :
    collectAll options workdir compiled observe total state index items =
      collectAll options workdir compiled' observe total state index items := by
  induction items generalizing state index with
  | nil => rfl
  | cons item rest ih => simp only [collectAll, collect_congr_table same, ih]

/-- The order in which jobs are done does not matter for a run: not for its results, nor for
anything else that it does. -/
theorem runArranged_eq_runWith {arrange : CompiledJobs → CompiledJobs}
    (prepared : (prepare settings options find compile paths).perform machine world =
      (.ok (items, compiled), ready))
    (distinct : (compiled.map Prod.fst).Nodup) (reordered : (arrange compiled).Perm compiled)
    (state : σ) :
    (runArranged settings options find compile arrange paths observe state).perform machine world =
      (runWith settings options find compile paths observe state).perform machine world := by
  -- Everything that is done with the table is looking up, and keys are distinct.
  have same : ∀ identity, (arrange compiled).lookup identity = compiled.lookup identity := by
    intro identity
    exact (reordered.symm.lookup_eq distinct).symm
  rw [runWith, runArranged, runArranged, Action.perform_bind_of_ok prepared,
    Action.perform_bind_of_ok prepared]
  simp only [settle, collectAll_congr_table same, id]

/-! ## Accounts -/

/-- The result of a fragment accounts for its selected cases. -/
structure Accounted (surroundings : Surroundings) (options : RunOptions) (workdir : Option Path)
    (outputOf : Job → CompileOutput) (outputDir : Path) (jobs : List Job)
    (item result : FragmentResult) : Prop where
  /-- The result is about the fragment. -/
  about : result.path = item.path ∧ result.key = item.key ∧ result.fragment = item.fragment ∧
    result.error = item.error
  /-- The cases with results are those that are listed, in the same order. -/
  listed : result.cases.map (·.testCase) =
    ((listedCases [item]).filter fun (_, testCase) => options.selects testCase).map Prod.snd
  /-- For a fragment that was read, these are its selected cases in source order. -/
  selected : ∀ fragment, item.fragment = some fragment →
    result.cases.map (·.testCase) = fragment.cases.filter options.selects
  /-- No case has two results. -/
  nodup : (result.cases.map (·.testCase.name)).Nodup
  /-- A disabled case is skipped, and no job is for it. -/
  skipped : ∀ found ∈ result.cases, found.testCase.enabled = false →
    found = .ofDisabled found.testCase ∧ ∀ job ∈ jobs, job.testCase ≠ some found.testCase
  /-- An enabled case is judged by the output of its own job. -/
  judged : ∀ fragment, item.fragment = some fragment →
    ∀ found ∈ result.cases, found.testCase.enabled = true →
      Job.own fragment item.key outputDir found.testCase ∈ jobs ∧
        ∃ compilation verdict,
          compilation.output = outputOf (Job.own fragment item.key outputDir found.testCase) ∧
          OwnVerdict surroundings workdir fragment found.testCase compilation.output verdict ∧
          found = .ofVerdict verdict compilation

/-- The listed cases of a fragment that was read are its cases. -/
theorem listedCases_singleton {fragment : Fragment} (holds : item.fragment = some fragment) :
    ((listedCases [item]).filter fun (_, testCase) => options.selects testCase).map Prod.snd =
      fragment.cases.filter options.selects := by
  rw [listedCases, List.flatMap_singleton, holds]
  simp only [List.filter_map, List.map_map]
  exact List.map_id _

/-- No job is for a disabled case. -/
theorem ne_of_mem_plannedJobs {testCase : TestCase} (disabled : testCase.enabled = false) {job : Job}
    (planned : job ∈ plannedJobs settings options items) : job.testCase ≠ some testCase := by
  obtain ⟨item, -, fragment, -, other, chosen, rfl⟩ := mem_plannedJobs.mp planned
  intro same
  have enabled := (RunOptions.mem_chosenCases.mp chosen).2.1
  rw [Job.own] at same
  split at same
  · rw [Option.some.inj same, disabled] at enabled
    cases enabled
  · cases same

/-- What is collected for a fragment accounts for its selected cases. -/
theorem Collected.accounted (all : Loaded items) (member : item ∈ items)
    (collected : Collected surroundings options workdir (RanAs outputOf) settings.outputDir item
      result) :
    Accounted surroundings options workdir outputOf settings.outputDir
      (plannedJobs settings options items) item result := by
  cases collected with
  | unread holds =>
    -- No fragment was read, so there are no cases to account for.
    have empty := all.cases_eq_nil item member
    refine ⟨⟨rfl, rfl, rfl, rfl⟩, ?_, ?_, ?_, ?_, ?_⟩
    · simp [empty, listedCases, holds]
    · simp [holds]
    · simp [empty]
    · simp [empty]
    · simp [holds]
  | read holds each =>
    rename_i fragment cases
    have same : cases.map (·.testCase) = fragment.cases.filter options.selects :=
      ResultOf.map_testCase_eq each
    have distinct := all.nodup_names item member fragment holds
    refine ⟨⟨rfl, rfl, rfl, rfl⟩, ?_, ?_, ?_, ?_, ?_⟩
    · rw [listedCases_singleton holds, same]
    · intro again holds'
      rw [← Option.some.inj (holds.symm.trans holds'), same]
    · have names := distinct.sublist (List.filter_sublist (p := options.selects) |>.map (·.name))
      rw [← same, List.map_map] at names
      exact names
    · intro found present disabled
      -- What is said of a disabled case does not come from a job: no job is planned for it.
      refine ⟨?_, fun job planned => ne_of_mem_plannedJobs disabled planned⟩
      obtain ⟨testCase, -, rests⟩ := each.exists_of_mem_right present
      rw [rests.testCase_eq] at disabled ⊢
      exact (ResultOf.of_disabled_iff disabled).mp rests
    · intro again holds' found present enabled
      obtain rfl := Option.some.inj (holds.symm.trans holds')
      obtain ⟨testCase, listed, rests⟩ := each.exists_of_mem_right present
      rw [rests.testCase_eq] at enabled ⊢
      have chosen := RunOptions.mem_chosenCases_of_selected enabled listed
      obtain ⟨compilation, ran, verdict, own, equal⟩ := (ResultOf.of_enabled_iff enabled).mp rests
      exact ⟨own_mem_plannedJobs settings member holds chosen, compilation, verdict, ran, own, equal⟩

/-- Where its generated test is does not matter for the account of a result. -/
theorem Accounted.withArtifact {jobs : List Job}
    (accounted : Accounted surroundings options workdir outputOf outputDir jobs item result) :
    Accounted surroundings options workdir outputOf outputDir jobs item
      (result.withArtifact outputDir) :=
  ⟨accounted.about, accounted.listed, accounted.selected, accounted.nodup, accounted.skipped,
    accounted.judged⟩

/-! ## Runs -/

/-- For distinct paths that can be read: the jobs that are planned are told from each other; in
whatever order they are done, the run does the same; it returns if there is a verdict on each chosen
case and what is found can be announced; and its results account for the selected cases of all
fragments. -/
theorem run_accounted (unique : paths.Nodup) (answers : Answers machine compile outputOf)
    (quiet : ∀ state result index total, Action.KeepsPaths (observe state result index total))
    (prepared : (prepare settings options find compile paths).perform machine world =
      (.ok (items, compiled), ready)) (state : σ) :
    ((plannedJobs settings options items).map Job.identity).Nodup ∧
    (∀ arrange : CompiledJobs → CompiledJobs, (arrange compiled).Perm compiled →
      (runArranged settings options find compile arrange paths observe state).perform machine world =
        (runWith settings options find compile paths observe state).perform machine world) ∧
    ((∀ item ∈ items, ∀ fragment, item.fragment = some fragment →
        ∀ testCase ∈ options.chosenCases fragment, ∃ verdict,
          OwnVerdict ⟨ready.tree, machine.here⟩ settings.compiler.workdir fragment testCase
            (outputOf (Job.own fragment item.key settings.outputDir testCase)) verdict) →
      (∀ results,
        judgeAll ⟨ready.tree, machine.here⟩ options settings.compiler.workdir compiled items =
            .ok results →
          ∃ written last after, (announce settings options observe state results).perform machine
            ready = (.ok (written, last), after)) →
      ∃ run last after,
        (runWith settings options find compile paths observe state).perform machine world =
          (.ok (run, last), after)) ∧
    ∀ run last after,
      (runWith settings options find compile paths observe state).perform machine world =
          (.ok (run, last), after) →
        List.Forall₂ (Accounted ⟨ready.tree, machine.here⟩ options settings.compiler.workdir outputOf
          settings.outputDir (plannedJobs settings options items)) items run.fragments := by
  have all := Loaded.of_prepare prepared
  have done := CompiledAs.of_prepare answers prepared
  obtain ⟨loaded, read, -⟩ := prepare_eq_ok_iff.mp prepared
  have distinct : ((plannedJobs settings options items).map Job.identity).Nodup :=
    all.nodup_identities (nodup_keys unique read)
  refine ⟨distinct, fun arrange reordered => ?_, fun verdicts announces => ?_,
    fun run last after returns => ?_⟩
  · refine runArranged_eq_runWith prepared ?_ reordered state
    rw [done.keys_eq]
    exact distinct
  · obtain ⟨results, found⟩ := List.exists_forall₂ fun item member =>
      done.exists_collected all member (verdicts item member)
    have judged := (all.judgeAll_eq_ok_iff done).mpr found
    obtain ⟨written, last, after, announced⟩ := announces results judged
    exact ⟨_, last, after, (runWith_eq_ok_iff quiet prepared).mpr
      ⟨results, judged, written, announced, rfl⟩⟩
  · obtain ⟨results, judged, written, announced, rfl⟩ := (runWith_eq_ok_iff quiet prepared).mp returns
    have found := (all.judgeAll_eq_ok_iff done).mp judged
    have accounts := found.imp_of_mem fun item member result collected =>
      (collected.ranAs all member done).accounted all member
    dsimp only
    rw [eq_of_announce announced, returned]
    split
    · exact List.forall₂_map_right_iff.mpr (accounts.imp fun _ _ accounted => accounted.withArtifact)
    · exact accounts

/-- A run on the sample that nobody is told of returns, whatever the order of the jobs, and accounts
for its cases. -/
theorem run_accounted_sample :
    ∃ (options : RunOptions) (ready after : World) (run : RunResult),
      (prepare Sample.settings options (return ()) Sample.compile [Sample.source]).perform
          Sample.machine Sample.world = (.ok ([Sample.item], Sample.compiled), ready) ∧
      ((plannedJobs Sample.settings options [Sample.item]).map Job.identity).Nodup ∧
      (runArranged Sample.settings options (return ()) Sample.compile List.reverse [Sample.source]
          Observer.silent ()).perform Sample.machine Sample.world = (.ok (run, ()), after) ∧
      List.Forall₂ (Accounted ⟨ready.tree, Sample.machine.here⟩ options none (fun _ => Sample.output)
        Sample.settings.outputDir (plannedJobs Sample.settings options [Sample.item])) [Sample.item]
        run.fragments := by
  let options : RunOptions := { writeArtifacts := some false }
  have chosen : options.chosenCases Sample.fragment ≠ [] := by decide
  have files : Sample.world.tree = Sample.tree := rfl
  obtain ⟨errors, prepared⟩ := Sample.prepare_settings (by decide) chosen files rfl
  obtain ⟨run, after, returns⟩ := Sample.exists_runWith (by decide) chosen rfl
  obtain ⟨distinct, reordered, -, accounts⟩ := run_accounted (List.nodup_singleton Sample.source)
    Sample.answers_compile Observer.keepsPaths_silent prepared ()
  have also := (reordered List.reverse (List.reverse_perm _)).trans returns
  exact ⟨options, _, after, run, prepared, distinct, also, accounts run () after returns⟩

end NegativeCompile
