import NegativeCompile.Proofs.Run.Filtering

/-! # Runs of one fragment

What a run finds out about a fragment does not depend on the other fragments of the run: as long as
fragments and paths stay as they are, a run of this fragment alone returns, and says the same of it
(`Steady.exists_single`). -/

namespace NegativeCompile

open Files

variable {σ : Type} {surroundings other : Surroundings} {settings : Settings}
variable {options single : RunOptions} {find : Action Unit} {compile : Job → Action CompileOutput}
variable {outputOf : Job → CompileOutput} {workdir : Option Path} {base path : Path}
variable {registry : Registry} {observe : Observer σ} {paths : List Path} {state last : σ}
variable {item result part : FragmentResult} {outputDir : Path}
variable {machine : Machine} {world later after : World}

/-! ## Files that stay as they are -/

/-- From one world to another fragments stay as they are, and paths lead where they led. -/
structure SameFiles (machine : Machine) (paths : List Path) (world later : World) : Prop where
  /-- Paths lead where they led. -/
  resolve_eq : Surroundings.resolve ⟨later.tree, machine.here⟩ =
    Surroundings.resolve ⟨world.tree, machine.here⟩
  /-- Fragments are read as before. -/
  load_eq : ∀ path ∈ paths, Fragment.load later.registry later.tree machine.here path =
    Fragment.load world.registry world.tree machine.here path

/-- A path is read as before if files stay as they are. -/
theorem ReadAs.of_sameFiles (same : SameFiles machine paths world later) (listed : path ∈ paths)
    (read : ReadAs world.registry ⟨world.tree, machine.here⟩ base path item) :
    ReadAs later.registry ⟨later.tree, machine.here⟩ base path item := by
  refine ⟨?_, ?_⟩
  · have leads := congrFun same.resolve_eq
    rw [Surroundings.fragmentKey_congr (leads path) (leads base), read.key_eq]
  · have loaded := read.load_eq
    rw [← same.load_eq path listed] at loaded
    exact loaded

/-! ## One fragment -/

/-- A path that is read as a result can be read alone. -/
theorem ReadAs.exists_loadFragments
    (read : ReadAs world.registry ⟨world.tree, machine.here⟩ base path item) :
    ∃ errors, (loadFragments base [path]).perform machine world =
      (.ok [item], world.withErrors errors) := by
  obtain ⟨errors, performed⟩ := loadFrom_perform machine world base [] [path]
  refine ⟨errors, performed.trans ?_⟩
  have loaded : loadedFrom world.registry ⟨world.tree, machine.here⟩ base [] [path] = .ok [item] := by
    have unknown : checkKey [] path item.key = .ok () := rfl
    simp only [loadedFrom, read.key_eq, Except.ok_bind, unknown, read.load_eq]
    rfl
  rw [loaded]

/-- A steady compiler that is found gets the jobs of a run done, if there are workers for them. -/
theorem Steady.exists_compilePlanned_of_finds (steady : Steady machine find compile outputOf)
    (finds : ∀ world, ∃ after, find.perform machine world = (.ok (), after)) {jobs : List Job}
    (workers : jobs ≠ [] → 0 < options.jobsFor settings) (world : World) :
    ∃ table after, (compilePlanned settings options find compile jobs).perform machine world =
      (.ok table, after) := by
  rw [compilePlanned]
  split
  · exact ⟨[], world, rfl⟩
  next needed =>
    have busy := workers fun nothing => needed (List.isEmpty_iff.mpr nothing)
    obtain ⟨found, finds⟩ := finds world
    obtain ⟨errors, both⟩ := compileJobs_eq_ok_iff compile (options.jobsFor settings) jobs machine found
    obtain ⟨table, after, done⟩ := steady.exists_compileFrom (found.withErrors errors) 0 jobs
    rw [Action.perform_bind_of_ok finds]
    exact ⟨table, after, (both table after).mpr ⟨busy, done⟩⟩

/-- If a run was prepared for which jobs were planned, there were workers. -/
theorem workers_of_prepare {items : List FragmentResult} {compiled : CompiledJobs}
    (prepared : (prepare settings options find compile paths).perform machine world =
      (.ok (items, compiled), after)) (planned : plannedJobs settings options items ≠ []) :
    0 < options.jobsFor settings := by
  obtain ⟨loaded, -, compiles⟩ := prepare_eq_ok_iff.mp prepared
  have needed : ¬ (plannedJobs settings options items).isEmpty = true := by simpa using planned
  rw [compilePlanned, if_neg needed] at compiles
  obtain ⟨-, found, -, rest⟩ := Action.perform_bind_eq_ok_iff.mp compiles
  obtain ⟨errors, both⟩ := compileJobs_eq_ok_iff compile (options.jobsFor settings)
    (plannedJobs settings options items) machine found
  exact ((both compiled after).mp rest).1

/-- A run of one fragment that nobody is told of returns its result, if there is a verdict on each
chosen case. -/
theorem Steady.exists_runWith_single (steady : Steady machine find compile outputOf)
    (finds : ∀ world, ∃ after, find.perform machine world = (.ok (), after))
    (read : ReadAs world.registry ⟨world.tree, machine.here⟩ settings.baseDir path item)
    (workers : plannedJobs settings options [item] ≠ [] → 0 < options.jobsFor settings)
    (unwritten : options.writesArtifacts settings = false)
    (verdicts : ∀ fragment, item.fragment = some fragment →
      ∀ testCase ∈ options.chosenCases fragment, ∃ verdict,
        OwnVerdict ⟨world.tree, machine.here⟩ settings.compiler.workdir fragment testCase
          (outputOf (Job.own fragment item.key settings.outputDir testCase)) verdict) :
    ∃ part run after ready,
      (runWith settings options find compile [path] Observer.silent ()).perform machine world =
          (.ok (run, ()), after) ∧ run.fragments = [part] ∧
        Surroundings.resolve ⟨ready, machine.here⟩ = Surroundings.resolve ⟨world.tree, machine.here⟩ ∧
        Collected ⟨ready, machine.here⟩ options settings.compiler.workdir (RanAs outputOf)
          settings.outputDir item part := by
  obtain ⟨errors, loaded⟩ := read.exists_loadFragments
  obtain ⟨table, ready, compiles⟩ := steady.exists_compilePlanned_of_finds finds workers
    (world.withErrors errors)
  have prepared := prepare_eq_ok_iff.mpr ⟨_, loaded, compiles⟩
  have all := Loaded.of_prepare prepared
  have done := CompiledAs.of_prepare steady.answers prepared
  have same := steady.resolve_eq prepared
  obtain ⟨part, collected⟩ := done.exists_collected all List.mem_cons_self
    fun fragment holds testCase chosen => by
      obtain ⟨verdict, own⟩ := verdicts fragment holds testCase chosen
      exact ⟨verdict, own.congr same.symm⟩
  have judged := (all.judgeAll_eq_ok_iff done).mpr (.cons collected .nil)
  have announced := perform_announce_silent unwritten machine ready [part]
  refine ⟨part, _, ready, ready.tree, (runWith_eq_ok_iff Observer.keepsPaths_silent prepared).mpr
    ⟨_, judged, _, announced, rfl⟩, rfl, same, ?_⟩
  exact collected.ranAs all List.mem_cons_self done

/-! ## The same results -/

/-- Two results of a fragment say the same: they differ at most in the numbers of compiler runs and in
the place of the generated test. -/
structure SaysSame (result part : FragmentResult) : Prop where
  /-- They are about the same fragment. -/
  about : part.path = result.path ∧ part.key = result.key ∧ part.fragment = result.fragment ∧
    part.error = result.error
  /-- They have the same results of cases. -/
  cases_eq : part.cases.map CaseResult.unnumbered = result.cases.map CaseResult.unnumbered

/-- Whatever is collected for the same selection of cases says the same. -/
theorem Collected.saysSame (selects : single.selects = options.selects)
    (distinct : ∀ fragment, item.fragment = some fragment → (fragment.cases.map (·.name)).Nodup)
    (same : surroundings.resolve = other.resolve)
    (whole : Collected surroundings options workdir (RanAs outputOf) outputDir item result)
    (alone : Collected other single workdir (RanAs outputOf) outputDir item part) :
    SaysSame result part := by
  cases whole with
  | unread holds =>
    rw [(unread_iff holds).mp alone]
    exact ⟨⟨rfl, rfl, rfl, rfl⟩, rfl⟩
  | @read fragment cases holds each =>
    obtain ⟨others, every, rfl⟩ := (read_iff holds).mp alone
    rw [selects] at every
    refine ⟨⟨rfl, rfl, rfl, rfl⟩, List.Forall₂.map_eq_map ?_⟩
    refine every.of_common each fun testCase _ first second found also => ?_
    exact found.unnumbered_eq (distinct fragment holds) same.symm also

/-- Where the generated test is does not matter for what a result says. -/
theorem SaysSame.of_returned {found : FragmentResult}
    (kept : result = found ∨ result = found.withArtifact outputDir) (same : SaysSame found part) :
    SaysSame result part := by
  rcases kept with rfl | rfl
  · exact same
  · exact ⟨same.about, same.cases_eq⟩

/-- A run that returns has a result for each path. -/
theorem exists_mem_fragments {all : RunResult}
    (returns : (runWith settings options find compile paths observe state).perform machine world =
      (.ok (all, last), after)) (listed : path ∈ paths) :
    ∃ result ∈ all.fragments, result.path = path := by
  obtain ⟨items, compiled, ready, results, prepared, rfl, each⟩ :=
    exists_prepare_and_collected returns
  obtain ⟨_, read, -⟩ := prepare_eq_ok_iff.mp prepared
  obtain ⟨item, present, readAs⟩ := (loadFragments_eq_ok read).1.exists_of_mem_left listed
  obtain ⟨found, member, _, collected⟩ := each.exists_of_mem_left present
  have origin : found.path = path := by
    rw [← (FragmentResult.path_eq_of_ofLoad readAs.load_eq).1]
    cases collected <;> rfl
  dsimp only
  rw [returned]
  split
  · exact ⟨_, List.mem_map_of_mem member, origin⟩
  · exact ⟨found, member, origin⟩

/-- What a run finds out about a fragment is what a run of this fragment alone finds out, which returns
as long as fragments and paths stay as they are. -/
theorem Steady.exists_single (steady : Steady machine find compile outputOf)
    (finds : ∀ world, ∃ after, find.perform machine world = (.ok (), after))
    (quiet : ∀ state result index total, Action.KeepsPaths (observe state result index total))
    {all : RunResult}
    (returns : (runWith settings options find compile paths observe state).perform machine world =
      (.ok (all, last), after))
    (selects : single.selects = options.selects)
    (workers : 0 < options.jobsFor settings → 0 < single.jobsFor settings)
    (unwritten : single.writesArtifacts settings = false)
    (same : SameFiles machine paths world later) (member : result ∈ all.fragments) :
    result.path ∈ paths ∧ ∃ item,
      ReadAs later.registry ⟨later.tree, machine.here⟩ settings.baseDir result.path item ∧
        item.error = result.error ∧
        (∀ fragment, item.fragment = some fragment → (fragment.cases.map (·.name)).Nodup ∧
          result.cases.map (·.testCase) = fragment.cases.filter options.selects) ∧
      ∃ part run after,
        (runWith settings single find compile [result.path] Observer.silent ()).perform machine later =
            (.ok (run, ()), after) ∧ run.fragments = [part] ∧ SaysSame result part := by
  obtain ⟨items, compiled, ready, prepared⟩ := exists_prepare_of_runWith returns
  have loaded := Loaded.of_prepare prepared
  have done := CompiledAs.of_prepare steady.answers prepared
  obtain ⟨results, judged, written, announced, rfl⟩ := (runWith_eq_ok_iff quiet prepared).mp returns
  dsimp only at member
  rw [eq_of_announce announced] at member
  obtain ⟨found, listed, kept⟩ := exists_of_mem_returned member
  obtain ⟨item, present, collected⟩ :=
    ((loaded.judgeAll_eq_ok_iff done).mp judged).exists_of_mem_right listed
  have whole := collected.ranAs loaded present done
  obtain ⟨_, read, -⟩ := prepare_eq_ok_iff.mp prepared
  obtain ⟨reads, -, -⟩ := loadFragments_eq_ok read
  obtain ⟨path, given, readAs⟩ := reads.exists_of_mem_right present
  have about : result.path = path ∧ item.error = result.error ∧ result.cases = found.cases := by
    have origin := (FragmentResult.path_eq_of_ofLoad readAs.load_eq).1
    rcases kept with rfl | rfl <;> cases whole <;> exact ⟨origin, rfl, rfl⟩
  obtain ⟨rfl, error, cases⟩ := about
  have listing : ∀ fragment, item.fragment = some fragment → (fragment.cases.map (·.name)).Nodup ∧
      result.cases.map (·.testCase) = fragment.cases.filter options.selects := by
    intro fragment holds
    obtain ⟨_, each, rfl⟩ := (Collected.read_iff holds).mp whole
    rw [cases]
    exact ⟨loaded.nodup_names item present fragment holds, ResultOf.map_testCase_eq each⟩
  have again := readAs.of_sameFiles same given
  have leads : Surroundings.resolve ⟨ready.tree, machine.here⟩ =
      Surroundings.resolve ⟨later.tree, machine.here⟩ :=
    (steady.resolve_eq prepared).trans same.resolve_eq.symm
  have chosenCases (fragment : Fragment) :
      single.chosenCases fragment = options.chosenCases fragment := by
    rw [RunOptions.chosenCases, selects, RunOptions.chosenCases]
  have busy : plannedJobs settings single [item] ≠ [] → 0 < single.jobsFor settings := by
    intro planned
    obtain ⟨job, needed⟩ := List.exists_mem_of_ne_nil _ planned
    obtain ⟨_, alone, _, holds, _, chosen, -⟩ := mem_plannedJobs.mp needed
    rw [List.mem_singleton.mp alone] at holds
    rw [chosenCases] at chosen
    -- What is planned for the fragment alone is planned for it among others.
    have also := own_mem_plannedJobs settings present holds chosen
    exact workers (workers_of_prepare prepared (List.ne_nil_of_mem also))
  obtain ⟨part, run, after, tree, performed, only, stays, alone⟩ :=
    steady.exists_runWith_single finds again busy unwritten fun fragment holds testCase chosen => by
      rw [chosenCases] at chosen
      obtain ⟨verdict, own⟩ := whole.exists_own holds chosen
      exact ⟨verdict, own.congr leads⟩
  refine ⟨given, item, again, error, listing, part, run, after, performed, only, ?_⟩
  refine .of_returned kept (whole.saysSame selects (loaded.nodup_names item present) ?_ alone)
  exact leads.trans stays.symm

end NegativeCompile
