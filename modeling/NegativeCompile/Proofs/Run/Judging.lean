import NegativeCompile.Proofs.Run.Framing
import NegativeCompile.Proofs.Job.Planning

/-! # What is compiled and judged

Compiling jobs gives one compiler run for each job, under what tells the job from others
(`CompiledAs`). So the run of a planned job is found, and what it gave is what the compiler gives
for that job (`Loaded.expected_of_lookup`), in whatever order the jobs were done.

A verdict is about its case and says that the case passed or failed (`Verdict.IsOn`). By what
compiler run a case is judged is said once, by `OwnVerdict`: a case of a guarded fragment is judged
alone, and all cases of any other fragment are judged together, so that the verdict on each rests on
what the others expect. Verdicts depend on the files only through what paths lead to. -/

namespace NegativeCompile

open Files

variable {settings : Settings} {options : RunOptions} {find : Action Unit}
variable {compile : Job → Action CompileOutput} {expected : Job → CompileOutput → Prop}
variable {job : Job} {jobs : List Job} {compiled : CompiledJobs}
variable {machine : Machine} {world after : World}

/-! ## Compilers -/

/-- Whatever a compiler gives for a job on a machine is as expected. -/
def Gives (machine : Machine) (compile : Job → Action CompileOutput)
    (expected : Job → CompileOutput → Prop) : Prop :=
  ∀ job world output after,
    (compile job).perform machine world = (.ok output, after) → expected job output

/-- What a compiler gives for a job on a machine is a function of the job. -/
def Answers (machine : Machine) (compile : Job → Action CompileOutput)
    (outputOf : Job → CompileOutput) : Prop :=
  Gives machine compile fun job output => output = outputOf job

/-- Nothing is expected of a compiler that gives anything. -/
theorem gives_true : Gives machine compile fun _ _ => True :=
  fun _ _ _ _ _ => trivial

/-! ## Tables of compiler runs -/

/-- A table holds one compiler run for each job, in order, which gave what is expected. -/
def CompiledAs (expected : Job → CompileOutput → Prop) (jobs : List Job)
    (compiled : CompiledJobs) : Prop :=
  List.Forall₂ (fun job entry => entry.1 = job.identity ∧ expected job entry.2.output) jobs compiled

/-- Compiling jobs one after another gives a compiler run for each. -/
theorem compiledAs_of_compileFrom (gives : Gives machine compile expected) {serial : Nat}
    (succeeds : (compileFrom compile serial jobs).perform machine world = (.ok compiled, after)) :
    CompiledAs expected jobs compiled := by
  induction jobs generalizing serial compiled world with
  | nil =>
    cases succeeds
    exact .nil
  | cons job rest ih =>
    rw [compileFrom, Action.perform_bind_eq_ok_iff] at succeeds
    obtain ⟨output, between, one, more⟩ := succeeds
    obtain ⟨others, last, done, equal⟩ := Action.perform_bind_eq_ok_iff.mp more
    cases equal
    exact .cons ⟨rfl, gives job world output between one⟩ (ih done)

/-- Compiling jobs by some workers is compiling them one after another once that was put on record,
if there are workers. -/
theorem compileJobs_eq_ok_iff (compile : Job → Action CompileOutput) (workers : Int)
    (jobs : List Job) (machine : Machine) (world : World) :
    ∃ errors, ∀ compiled after,
      (compileJobs compile workers jobs).perform machine world = (.ok compiled, after) ↔
        0 < workers ∧ (compileFrom compile 0 jobs).perform machine (world.withErrors errors) =
          (.ok compiled, after) := by
  obtain ⟨errors, noted⟩ := Action.perform_note machine world .running
    s!"running {jobs.length} compile job(s) with {workers} worker(s)"
  refine ⟨errors, fun compiled after => ?_⟩
  rw [compileJobs, Action.perform_bind_of_ok noted]
  dsimp only
  split
  next idle =>
    rw [Action.perform_bind_of_error (Action.perform_throw _)]
    refine iff_of_false (fun equal => by cases equal) fun both => ?_
    exact absurd both.1 (Int.not_lt.mpr idle)
  next busy =>
    -- A failure is thrown again once it is on record, so success is that of compiling itself.
    rw [Action.perform_tryCatch, and_iff_right (Int.not_le.mp busy)]
    split
    next value last found => rw [found]
    next failure last found =>
      rw [found]
      refine iff_of_false (fun rest => ?_) fun equal => by cases equal
      obtain ⟨_, warned, -, thrown⟩ := Action.perform_bind_eq_ok_iff.mp rest
      cases thrown

/-- Compiling the planned jobs gives a compiler run for each. -/
theorem compiledAs_of_compilePlanned (gives : Gives machine compile expected)
    (succeeds : (compilePlanned settings options find compile jobs).perform machine world =
      (.ok compiled, after)) : CompiledAs expected jobs compiled := by
  rw [compilePlanned] at succeeds
  split at succeeds
  next nothing =>
    cases succeeds
    rw [List.isEmpty_iff.mp nothing]
    exact .nil
  next something =>
    obtain ⟨-, between, -, rest⟩ := Action.perform_bind_eq_ok_iff.mp succeeds
    obtain ⟨errors, both⟩ := compileJobs_eq_ok_iff compile (options.jobsFor settings) jobs machine
      between
    exact compiledAs_of_compileFrom gives ((both compiled after).mp rest).2

/-! ## Looking up compiler runs -/

/-- The keys of a table are what tells the jobs from each other. -/
theorem CompiledAs.keys_eq (done : CompiledAs expected jobs compiled) :
    compiled.map Prod.fst = jobs.map Job.identity := by
  induction done with
  | nil => rfl
  | cons head _ ih => rw [List.map_cons, List.map_cons, head.1, ih]

/-- The compiler run of a job that was done is found. -/
theorem CompiledAs.exists_lookup (done : CompiledAs expected jobs compiled) (planned : job ∈ jobs) :
    ∃ compilation, compiled.lookup job.identity = some compilation :=
  List.exists_lookup_of_mem (done.keys_eq ▸ List.mem_map_of_mem planned)

/-- There is no compiler run under what tells no job from others. -/
theorem CompiledAs.lookup_eq_none (done : CompiledAs expected jobs compiled)
    {identity : String × Option String} (missing : ∀ job ∈ jobs, job.identity ≠ identity) :
    compiled.lookup identity = none := by
  refine List.lookup_eq_none_of_notMem ?_
  rw [done.keys_eq]
  intro member
  obtain ⟨job, planned, equal⟩ := List.mem_map.mp member
  exact missing job planned equal

/-- A compiler run that is found gave what is expected of a job. -/
theorem CompiledAs.expected_of_lookup (done : CompiledAs expected jobs compiled)
    {identity : String × Option String} {compilation : Compilation}
    (found : compiled.lookup identity = some compilation) :
    ∃ job ∈ jobs, job.identity = identity ∧ expected job compilation.output := by
  obtain ⟨job, planned, equal, holds⟩ := done.exists_of_mem_right (List.mem_of_lookup_eq_some found)
  exact ⟨job, planned, equal.symm, holds⟩

/-- The compiler run that is found for a planned job gave what is expected of that very job. -/
theorem Loaded.expected_of_lookup {items : List FragmentResult} (all : Loaded items)
    (done : CompiledAs expected (plannedJobs settings options items) compiled)
    (planned : job ∈ plannedJobs settings options items) {compilation : Compilation}
    (found : compiled.lookup job.identity = some compilation) :
    expected job compilation.output := by
  obtain ⟨other, also, same, holds⟩ := done.expected_of_lookup found
  exact all.eq_of_identity also planned same ▸ holds

/-! ## Preparing a run -/

/-- A run is prepared if the fragments are read and the jobs compiled. -/
theorem prepare_eq_ok_iff {paths : List Path} {items : List FragmentResult} :
    (prepare settings options find compile paths).perform machine world =
        (.ok (items, compiled), after) ↔
      ∃ loaded, (loadFragments settings.baseDir paths).perform machine world = (.ok items, loaded) ∧
        (compilePlanned settings options find compile
          (plannedJobs settings options items)).perform machine loaded = (.ok compiled, after) := by
  rw [prepare, Action.perform_bind_eq_ok_iff]
  constructor
  · rintro ⟨items, loaded, read, rest⟩
    obtain ⟨compiled, done, compiles, equal⟩ := Action.perform_bind_eq_ok_iff.mp rest
    cases equal
    exact ⟨loaded, read, compiles⟩
  · rintro ⟨loaded, read, compiles⟩
    exact ⟨items, loaded, read, Action.perform_bind_eq_ok_iff.mpr ⟨compiled, after, compiles, rfl⟩⟩

/-- What was read for a run has in common what is expected of it. -/
theorem Loaded.of_prepare {paths : List Path} {items : List FragmentResult}
    (prepared : (prepare settings options find compile paths).perform machine world =
      (.ok (items, compiled), after)) : Loaded items := by
  obtain ⟨loaded, read, -⟩ := prepare_eq_ok_iff.mp prepared
  exact .of_loadFragments read

/-- There is a compiler run for each job that is planned for a run. -/
theorem CompiledAs.of_prepare (gives : Gives machine compile expected) {paths : List Path}
    {items : List FragmentResult}
    (prepared : (prepare settings options find compile paths).perform machine world =
      (.ok (items, compiled), after)) :
    CompiledAs expected (plannedJobs settings options items) compiled := by
  obtain ⟨loaded, -, compiles⟩ := prepare_eq_ok_iff.mp prepared
  exact compiledAs_of_compilePlanned gives compiles

/-! ## Paths -/

/-- Compiling the planned jobs keeps paths if looking for the compiler and compiling each do. -/
theorem keepsPaths_compilePlanned (search : Action.KeepsPaths find)
    (keeps : ∀ job, Action.KeepsPaths (compile job)) (jobs : List Job) :
    Action.KeepsPaths (compilePlanned settings options find compile jobs) :=
  stays_compilePlanned Action.isGradual_keepsPaths.isFrame search fun job _ => keeps job

end NegativeCompile

namespace NegativeCompile

open Files

variable {surroundings other : Surroundings} {workdir : Option Path} {fragment : Fragment}
variable {testCase : TestCase} {output : CompileOutput} {verdict : Verdict}
variable {verdicts : List Verdict}

/-! ## Statuses -/

/-- A verdict is on a case if it is about that case and says that it passed or failed. -/
structure Verdict.IsOn (testCase : TestCase) (verdict : Verdict) : Prop where
  /-- The verdict is about the case. -/
  testCase_eq : verdict.testCase = testCase
  /-- The case passed or failed. -/
  decided : verdict.status = .passed ∨ verdict.status.isFailure = true

namespace Verdict

/-- A status that a compiler run imposes is a failure. -/
theorem isFailure_of_imposed {status : Status} (imposed : imposedStatus? output = some status) :
    status.isFailure = true := by
  unfold imposedStatus? at imposed
  split at imposed
  · rw [← Option.some.inj imposed]
    rfl
  · split at imposed
    · rw [← Option.some.inj imposed]
      rfl
    · cases imposed

/-- A verdict with a failure for its status is on its case. -/
theorem isOn_plain {status : Status} (failure : status.isFailure = true) :
    (plain testCase status).IsOn testCase :=
  ⟨rfl, .inr failure⟩

/-- The verdict on a single case is on it. -/
theorem isOn_of_judgeSingle (judged : judgeSingle testCase output = .ok verdict) :
    verdict.IsOn testCase := by
  unfold judgeSingle at judged
  split at judged
  next status imposed =>
    rw [← Except.ok.inj judged]
    exact isOn_plain (isFailure_of_imposed imposed)
  · split at judged
    · rw [← Except.ok.inj judged]
      exact isOn_plain rfl
    · obtain ⟨⟨matched, unmatched⟩, -, equal⟩ := Except.bind_eq_ok_iff.mp judged
      rw [← Except.ok.inj equal]
      refine ⟨rfl, ?_⟩
      cases unmatched with
      | nil => exact .inl rfl
      | cons => exact .inr rfl

/-- The verdict on one case among others is on it. -/
theorem isOn_of_judgeCase {here stray : List Diagnostic}
    (judged : judgeCase here stray testCase = .ok verdict) : verdict.IsOn testCase := by
  obtain ⟨⟨matched, unmatched⟩, -, equal⟩ := Except.bind_eq_ok_iff.mp judged
  rw [← Except.ok.inj equal]
  refine ⟨rfl, ?_⟩
  cases unmatched with
  | cons => exact .inr rfl
  | nil =>
    cases stray with
    | nil => exact .inl rfl
    | cons => exact .inr rfl

/-- The verdicts on the enabled cases of a fragment are on them, in source order. -/
theorem isOn_of_judgeWhole (judged : judgeWhole surroundings fragment output workdir = .ok verdicts) :
    List.Forall₂ (fun testCase verdict => verdict.IsOn testCase) fragment.enabledCases verdicts := by
  unfold judgeWhole at judged
  split at judged
  next status imposed =>
    rw [← Except.ok.inj judged, List.forall₂_map_right_iff, List.forall₂_same]
    exact fun _ _ => isOn_plain (isFailure_of_imposed imposed)
  · split at judged
    · rw [← Except.ok.inj judged, List.forall₂_map_right_iff, List.forall₂_same]
      exact fun _ _ => isOn_plain rfl
    · obtain ⟨here, -, rest⟩ := Except.bind_eq_ok_iff.mp judged
      obtain ⟨stray, -, each⟩ := Except.bind_eq_ok_iff.mp rest
      exact (Except.mapM_eq_ok_iff.mp each).imp fun _ _ => isOn_of_judgeCase

/-- The verdicts on a whole fragment are about its enabled cases, in source order. -/
theorem map_testCase_of_judgeWhole
    (judged : judgeWhole surroundings fragment output workdir = .ok verdicts) :
    verdicts.map (·.testCase) = fragment.enabledCases := by
  have on := isOn_of_judgeWhole judged
  clear judged
  generalize fragment.enabledCases = cases at on ⊢
  induction on with
  | nil => rfl
  | cons head _ ih => rw [List.map_cons, head.testCase_eq, ih]

/-- The verdicts on a whole fragment are about cases with distinct names. -/
theorem nodup_name_of_judgeWhole (distinct : (fragment.cases.map (·.name)).Nodup)
    (judged : judgeWhole surroundings fragment output workdir = .ok verdicts) :
    (verdicts.map (·.testCase.name)).Nodup := by
  have names : (fragment.enabledCases.map (·.name)).Nodup :=
    distinct.sublist (List.filter_sublist.map _)
  rw [← map_testCase_of_judgeWhole judged, List.map_map] at names
  exact names

/-! ## Files -/

/-- Which file a diagnostic is about depends on what paths lead to. -/
theorem sameFile_congr (same : surroundings.resolve = other.resolve) (reported : String)
    (path : Path) : surroundings.sameFile reported path workdir =
      other.sameFile reported path workdir := by
  unfold Surroundings.sameFile
  rw [same]

/-- Which diagnostics are about a fragment depends on what paths lead to. -/
theorem localDiagnostics_congr (same : surroundings.resolve = other.resolve)
    (diagnostics : List Diagnostic) :
    localDiagnostics surroundings fragment workdir diagnostics =
      localDiagnostics other fragment workdir diagnostics := by
  induction diagnostics with
  | nil => rfl
  | cons diagnostic rest ih => rw [localDiagnostics, localDiagnostics, sameFile_congr same, ih]

/-- The verdicts on a whole fragment depend on what paths lead to. -/
theorem judgeWhole_congr (same : surroundings.resolve = other.resolve) :
    judgeWhole surroundings fragment output workdir = judgeWhole other fragment output workdir := by
  simp only [judgeWhole, localDiagnostics_congr same]

end Verdict

/-! ## Own verdicts -/

/-- The verdict on an enabled case by the output of its own job. -/
inductive OwnVerdict (surroundings : Surroundings) (workdir : Option Path) (fragment : Fragment)
    (testCase : TestCase) (output : CompileOutput) : Verdict → Prop where
  /-- A case of a guarded fragment is judged alone. -/
  | alone {verdict : Verdict} (guarded : fragment.isGuarded = true)
      (judged : Verdict.judgeSingle testCase output = .ok verdict) :
      OwnVerdict surroundings workdir fragment testCase output verdict
  /-- A case of any other fragment is judged together with the others. -/
  | together {verdict : Verdict} {verdicts : List Verdict} (unguarded : fragment.isGuarded = false)
      (judged : Verdict.judgeWhole surroundings fragment output workdir = .ok verdicts)
      (member : verdict ∈ verdicts) (about : verdict.testCase = testCase) :
      OwnVerdict surroundings workdir fragment testCase output verdict

/-- An enabled case passes by the output of its own job if its own verdict is that it passed. -/
def Passes (surroundings : Surroundings) (workdir : Option Path) (fragment : Fragment)
    (testCase : TestCase) (output : CompileOutput) : Prop :=
  ∃ verdict, OwnVerdict surroundings workdir fragment testCase output verdict ∧
    verdict.status = .passed

namespace OwnVerdict

/-- The own verdict on a case is on that case. -/
theorem isOn (own : OwnVerdict surroundings workdir fragment testCase output verdict) :
    verdict.IsOn testCase := by
  cases own with
  | alone _ judged => exact Verdict.isOn_of_judgeSingle judged
  | together _ judged member about =>
    obtain ⟨judgedCase, -, on⟩ := (Verdict.isOn_of_judgeWhole judged).exists_of_mem_right member
    exact ⟨about, on.decided⟩

/-- There is one own verdict on a case at most, if the cases have distinct names. -/
theorem unique (distinct : (fragment.cases.map (·.name)).Nodup) {again : Verdict}
    (own : OwnVerdict surroundings workdir fragment testCase output verdict)
    (also : OwnVerdict surroundings workdir fragment testCase output again) : verdict = again := by
  cases own with
  | alone guarded judged =>
    cases also with
    | alone _ judged' => exact Except.ok.inj (judged.symm.trans judged')
    | together unguarded => rw [guarded] at unguarded; cases unguarded
  | together unguarded judged member about =>
    cases also with
    | alone guarded => rw [guarded] at unguarded; cases unguarded
    | together _ judged' member' about' =>
      cases Except.ok.inj (judged.symm.trans judged')
      -- Both verdicts stand in one list, in which names are distinct.
      have sameName : verdict.testCase.name = again.testCase.name := by rw [about, about']
      exact List.inj_on_of_nodup_map (Verdict.nodup_name_of_judgeWhole distinct judged) member
        member' sameName

/-- The own verdict on a case depends on the files only through what paths lead to. -/
theorem congr (same : surroundings.resolve = other.resolve)
    (own : OwnVerdict surroundings workdir fragment testCase output verdict) :
    OwnVerdict other workdir fragment testCase output verdict := by
  cases own with
  | alone guarded judged => exact .alone guarded judged
  | together unguarded judged member about =>
    exact .together unguarded (Verdict.judgeWhole_congr same ▸ judged) member about

end OwnVerdict

end NegativeCompile
