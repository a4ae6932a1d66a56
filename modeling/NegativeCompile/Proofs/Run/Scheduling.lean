import NegativeCompile.Proofs.Run.Settling

/-! # Pools of workers

Jobs need not be compiled one after another: workers take them from a pool, and they end in any order.
What the workers do is a schedule, a list of moves (`Move`), and a run may follow any schedule
(`runScheduled`). What a schedule leaves undone is done in rounds, one job after another, so that the
run without a schedule is the plain one (`runScheduled_nil`). -/

namespace NegativeCompile

open Files

/-! ## Pools -/

/-- Jobs that are compiled by workers. -/
structure Pool where
  /-- The jobs that wait for a worker. -/
  waiting : List Job
  /-- The jobs that are being compiled. -/
  running : List Job
  /-- The jobs that were compiled, with what that gave, in the order in which they ended. -/
  finished : List (Job × Except Failure CompileOutput)
  /-- The failure that ends the run, once it is met. -/
  failure : Option Failure

/-- What can happen in a pool. -/
inductive Move where
  /-- A worker that is free takes the first job that waits. -/
  | start
  /-- A job that is being compiled ends. -/
  | finish (index : Nat)
  /-- The failure of a job is met, and the compilers are stopped. -/
  | abort (index : Nat)
  /-- After a failure no job waits any longer. -/
  | cancel
  deriving DecidableEq, Repr

namespace Pool

/-- A pool in which all jobs wait. -/
def ofJobs (jobs : List Job) : Pool := ⟨jobs, [], [], none⟩

/-- The failures of jobs that were compiled. -/
def failuresOf (finished : List (Job × Except Failure CompileOutput)) : List Failure :=
  finished.filterMap fun entry =>
    match entry.2 with
    | .ok _ => none
    | .error failure => some failure

/-- A worker takes a job, if there is one that waits and a worker that is free. -/
def started (workers : Int) (pool : Pool) : Pool :=
  match pool.waiting with
  | [] => pool
  | job :: rest =>
    if pool.running.length < workers then
      { pool with waiting := rest, running := pool.running ++ [job] }
    else pool

/-- A job ends with an outcome. -/
def ended (pool : Pool) (index : Nat) (job : Job) (outcome : Except Failure CompileOutput) : Pool :=
  { pool with
    running := pool.running.eraseIdx index, finished := pool.finished ++ [(job, outcome)] }

/-- A failure is met, unless one was met before. -/
def aborted (pool : Pool) (index : Nat) : Pool :=
  { pool with failure := pool.failure.or (failuresOf pool.finished)[index]? }

/-- No job waits any longer, if a failure was met. -/
def cancelled (pool : Pool) : Pool :=
  if pool.failure.isSome then { pool with waiting := [] } else pool

/-- Make a move; a job is compiled when it ends, and by then the compilers may have been stopped. -/
def move (compile : Bool → Job → Action CompileOutput) (workers : Int) (pool : Pool) :
    Move → Action Pool
  | .start => return pool.started workers
  | .finish index =>
    match pool.running[index]? with
    | none => return pool
    | some job => do
      return pool.ended index job (← observing (compile pool.failure.isSome job))
  | .abort index => return pool.aborted index
  | .cancel => return pool.cancelled

/-- The compiler runs of jobs that were compiled, numbered in the order in which they ended, or the
first failure. -/
def tableOf (finished : List (Job × Except Failure CompileOutput)) : Except Failure CompiledJobs :=
  finished.zipIdx.mapM fun ((job, outcome), serial) => return (job.identity, ⟨serial, ← outcome⟩)

/-- What a pool gives: the compiler runs of all jobs, or the failure that ends the run. -/
def result (pool : Pool) : Except Failure CompiledJobs :=
  match pool.failure with
  | some failure => .error failure
  | none => tableOf pool.finished

end Pool

/-- The moves that get one job done, if there are workers. -/
def Move.round : List Move := [.start, .finish 0, .abort 0, .cancel]

/-- Put jobs into a pool and follow a schedule, after which the jobs that are left are done. -/
def Pool.operate (compile : Bool → Job → Action CompileOutput) (workers : Int)
    (schedule : List Move) (jobs : List Job) : Action Pool := do
  Action.note .running s!"running {jobs.length} compile job(s) with {workers} worker(s)"
  if workers ≤ 0 then throw (.senseless "max_workers must be greater than 0")
  (schedule ++ (List.replicate jobs.length Move.round).flatten).foldlM (Pool.move compile workers)
    (.ofJobs jobs)

/-! ## Runs -/

/-- Compile jobs by some workers that follow a schedule; a failure ends it and is put on record. -/
def compileScheduled (compile : Bool → Job → Action CompileOutput) (workers : Int)
    (schedule : List Move) (jobs : List Job) : Action CompiledJobs := do
  let pool ← Pool.operate compile workers schedule jobs
  match pool.result with
  | .ok compiled => return compiled
  | .error failure => do
    Action.warn .running s!"aborting run, terminating compilers: {failure.message}"
    throw failure

/-- Compile the jobs of a run by workers; a compiler is looked for only if there are any. -/
def scheduledJobs (settings : Settings) (options : RunOptions) (find : Action Unit)
    (compile : Bool → Job → Action CompileOutput) (schedule : List Move) (jobs : List Job) :
    Action CompiledJobs :=
  if jobs.isEmpty then pure [] else do
    find
    compileScheduled compile (options.jobsFor settings) schedule jobs

/-- Check fragments with a way to look for the compiler and a way to compile jobs, which may depend on
whether the compilers have been stopped; the workers follow a schedule. -/
def runScheduled {σ : Type} (settings : Settings) (options : RunOptions) (find : Action Unit)
    (compile : Bool → Job → Action CompileOutput) (schedule : List Move) (paths : List Path)
    (observe : Observer σ) (state : σ) : Action (RunResult × σ) := do
  let items ← loadFragments settings.baseDir paths
  let compiled ←
    scheduledJobs settings options find compile schedule (plannedJobs settings options items)
  let (results, last) ← settle settings options compiled observe state items
  return (⟨results, .fraction (totalDuration compiled)⟩, last)

variable {σ : Type} {settings : Settings} {options : RunOptions} {find : Action Unit}
variable {compile : Bool → Job → Action CompileOutput} {plain : Job → Action CompileOutput}
variable {workers : Int} {schedule : List Move} {job : Job} {jobs : List Job}
variable {observe : Observer σ} {paths : List Path} {state : σ} {pool : Pool}
variable {machine : Machine} {world after : World}

/-! ## Plain runs -/

namespace Pool

/-- Moves in a row are made one after another. -/
theorem perform_foldlM_append {moves later : List Move} {next : Pool} {between : World}
    (made : (moves.foldlM (move compile workers) pool).perform machine world = (.ok next, between)) :
    ((moves ++ later).foldlM (move compile workers) pool).perform machine world =
      (later.foldlM (move compile workers) next).perform machine between := by
  rw [List.foldlM_append, Action.perform_bind_of_ok made]

/-- A table has one more entry for one more job. -/
theorem tableOf_append (finished : List (Job × Except Failure CompileOutput)) (job : Job)
    (outcome : Except Failure CompileOutput) :
    tableOf (finished ++ [(job, outcome)]) = (do
      let before ← tableOf finished
      return before ++ [(job.identity, ⟨finished.length, ← outcome⟩)]) := by
  rw [tableOf, List.zipIdx_append, List.mapM_append, Nat.zero_add]
  cases outcome <;> rfl

/-- The failure of one more job comes last. -/
theorem failuresOf_append (finished : List (Job × Except Failure CompileOutput)) (job : Job)
    (outcome : Except Failure CompileOutput) :
    failuresOf (finished ++ [(job, outcome)]) = failuresOf finished ++ failuresOf [(job, outcome)] :=
  List.filterMap_append

/-- If no job failed there is a table. -/
theorem exists_tableOf {finished : List (Job × Except Failure CompileOutput)}
    (fine : failuresOf finished = []) : ∃ compiled, tableOf finished = .ok compiled := by
  induction finished using List.reverseRecOn with
  | nil => exact ⟨[], rfl⟩
  | append_singleton finished entry ih =>
    obtain ⟨job, outcome⟩ := entry
    rw [failuresOf_append, List.append_eq_nil_iff] at fine
    obtain ⟨compiled, found⟩ := ih fine.1
    cases outcome with
    | error failure => cases fine.2
    | ok output =>
      rw [tableOf_append, found]
      exact ⟨_, rfl⟩

/-- Once all jobs are done a round changes nothing. -/
theorem perform_round_of_done (waiting : pool.waiting = []) (running : pool.running = [])
    (met : pool.failure.or (failuresOf pool.finished)[0]? = pool.failure) :
    (Move.round.foldlM (move compile workers) pool).perform machine world = (.ok pool, world) := by
  obtain ⟨_, _, finished, failure⟩ := pool
  cases waiting
  cases running
  have aborts : aborted ⟨[], [], finished, failure⟩ 0 = ⟨[], [], finished, failure⟩ :=
    congrArg (Pool.mk [] [] finished) met
  have cancels : cancelled ⟨[], [], finished, failure⟩ = ⟨[], [], finished, failure⟩ := by
    rw [cancelled, ite_self]
  change (do
    let next ← pure (aborted ⟨[], [], finished, failure⟩ 0)
    pure next.cancelled : Action Pool).perform machine world = _
  rw [aborts]
  exact congrArg (fun pool => (Except.ok pool, world)) cancels

/-- Once all jobs are done rounds change nothing. -/
theorem perform_rounds_of_done (waiting : pool.waiting = []) (running : pool.running = [])
    (met : pool.failure.or (failuresOf pool.finished)[0]? = pool.failure) (count : Nat) :
    ((List.replicate count Move.round).flatten.foldlM (move compile workers) pool).perform machine
      world = (.ok pool, world) := by
  induction count with
  | zero => rfl
  | succ count ih =>
    rw [List.replicate_succ, List.flatten_cons,
      perform_foldlM_append (perform_round_of_done waiting running met), ih]

/-- A round does one job. -/
theorem perform_round (busy : 0 < workers) (job : Job) (rest : List Job)
    (finished : List (Job × Except Failure CompileOutput)) {outcome : Except Failure CompileOutput}
    (compiles : (compile false job).perform machine world = (outcome, after)) :
    (Move.round.foldlM (move compile workers) ⟨job :: rest, [], finished, none⟩).perform machine
        world =
      (.ok (aborted ⟨rest, [], finished ++ [(job, outcome)], none⟩ 0).cancelled, after) := by
  have starts : started workers ⟨job :: rest, [], finished, none⟩ = ⟨rest, [job], finished, none⟩ :=
    if_pos busy
  have observed : (observing (compile false job)).perform machine world = (.ok outcome, after) := by
    rw [Action.perform_observing, compiles]
  have finishes : (move compile workers ⟨rest, [job], finished, none⟩ (.finish 0)).perform machine
      world = (.ok ⟨rest, [], finished ++ [(job, outcome)], none⟩, after) :=
    Action.perform_bind_of_ok observed _
  change (do
    let next ← pure (started workers ⟨job :: rest, [], finished, none⟩)
    let ended ← next.move compile workers (.finish 0)
    let met ← pure (ended.aborted 0)
    pure met.cancelled : Action Pool).perform machine world = _
  rw [starts, Action.perform_bind_of_ok (Action.perform_pure _), Action.perform_bind_of_ok finishes]
  rfl

/-- Without a schedule the jobs of a pool are done one after another up to the first failure. -/
theorem exists_perform_rounds (busy : 0 < workers) (jobs : List Job)
    (finished : List (Job × Except Failure CompileOutput))
    (fine : failuresOf finished = []) (machine : Machine) (world : World) :
    ∃ pool, ((List.replicate jobs.length Move.round).flatten.foldlM
        (move (fun _ => plain) workers) ⟨jobs, [], finished, none⟩).perform machine world =
          (.ok pool, ((compileFrom plain finished.length jobs).perform machine world).2) ∧
      pool.result = (do
        let before ← tableOf finished
        return before ++ (← ((compileFrom plain finished.length jobs).perform machine world).1)) := by
  induction jobs generalizing finished world with
  | nil =>
    refine ⟨⟨[], [], finished, none⟩, rfl, ?_⟩
    obtain ⟨compiled, found⟩ := exists_tableOf fine
    have table : result ⟨[], [], finished, none⟩ = .ok compiled := found
    rw [table, found]
    exact congrArg Except.ok (List.append_nil compiled).symm
  | cons job rest ih =>
    rw [List.length_cons, List.replicate_succ, List.flatten_cons, compileFrom]
    cases compiles : (plain job).perform machine world with
    | mk outcome after =>
      have first : (Move.round.foldlM (move (fun _ => plain) workers)
          ⟨job :: rest, [], finished, none⟩).perform machine world =
            (.ok (aborted ⟨rest, [], finished ++ [(job, outcome)], none⟩ 0).cancelled, after) :=
        perform_round busy job rest finished compiles
      rw [perform_foldlM_append first, aborted, failuresOf_append, fine]
      cases outcome with
      | error failure =>
        -- The failure is the first one, so it is met at once.
        obtain ⟨before, found⟩ := exists_tableOf fine
        refine ⟨⟨[], [], finished ++ [(job, .error failure)], some failure⟩, ?_, ?_⟩
        · rw [Action.perform_bind_of_error compiles]
          exact perform_rounds_of_done rfl rfl rfl _
        · rw [Action.perform_bind_of_error compiles, found]
          rfl
      | ok output =>
        have still : failuresOf (finished ++ [(job, .ok output)]) = [] := by
          rw [failuresOf_append, fine]
          rfl
        obtain ⟨pool, performed, given⟩ := ih (finished ++ [(job, .ok output)]) still after
        rw [List.length_append, List.length_singleton] at performed given
        rw [Action.perform_bind_of_ok compiles, Action.perform_bind]
        refine ⟨pool, performed.trans ?_, given.trans ?_⟩
        · rcases (compileFrom plain (finished.length + 1) rest).perform machine after with
            ⟨_ | others, last⟩ <;> rfl
        · rw [tableOf_append]
          obtain ⟨before, found⟩ := exists_tableOf fine
          rw [found]
          rcases (compileFrom plain (finished.length + 1) rest).perform machine after with
            ⟨failure | others, last⟩
          · rfl
          · exact congrArg Except.ok (List.append_assoc before [_] others)

end Pool

/-- Without a schedule the jobs are compiled as they are without workers. -/
theorem perform_compileScheduled_nil (plain : Job → Action CompileOutput) (workers : Int)
    (jobs : List Job) (machine : Machine) (world : World) :
    (compileScheduled (fun _ => plain) workers [] jobs).perform machine world =
      (compileJobs plain workers jobs).perform machine world := by
  obtain ⟨errors, noted⟩ := Action.perform_note machine world .running
    s!"running {jobs.length} compile job(s) with {workers} worker(s)"
  rw [compileScheduled, compileJobs, Action.perform_bind_of_ok noted]
  by_cases idle : workers ≤ 0
  · have refused : (Pool.operate (fun _ => plain) workers [] jobs).perform machine world =
        (.error (.senseless "max_workers must be greater than 0"), world.withErrors errors) := by
      rw [Pool.operate, Action.perform_bind_of_ok noted]
      dsimp only
      rw [if_pos idle]
      rfl
    rw [Action.perform_bind_of_error refused]
    dsimp only
    rw [if_pos idle]
    rfl
  · obtain ⟨pool, performed, given⟩ := Pool.exists_perform_rounds (Int.not_le.mp idle) jobs [] rfl
      machine (world.withErrors errors)
    have operated : (Pool.operate (fun _ => plain) workers [] jobs).perform machine world =
        (.ok pool, ((compileFrom plain 0 jobs).perform machine (world.withErrors errors)).2) := by
      rw [Pool.operate, Action.perform_bind_of_ok noted]
      dsimp only
      rw [if_neg idle]
      exact performed
    -- Nothing is in flight at the end, so the pool gives what compiling the jobs in turn gives.
    have results : pool.result =
        ((compileFrom plain 0 jobs).perform machine (world.withErrors errors)).1 := by
      rw [given]
      rcases (compileFrom plain 0 jobs).perform machine (world.withErrors errors) with
        ⟨_ | compiled, last⟩ <;> rfl
    rw [Action.perform_bind_of_ok operated, results]
    dsimp only
    rw [if_neg idle, Action.perform_tryCatch]
    rcases (compileFrom plain 0 jobs).perform machine (world.withErrors errors) with
      ⟨failure | compiled, last⟩ <;> rfl

/-- Without a schedule a run is the plain one. -/
theorem perform_runScheduled_nil :
    (runScheduled settings options find (fun _ => plain) [] paths observe state).perform machine world =
      (runWith settings options find plain paths observe state).perform machine world := by
  cases read : (loadFragments settings.baseDir paths).perform machine world with
  | mk found loaded =>
    cases found with
    | error failure =>
      rw [runScheduled, Action.perform_bind_of_error read, runWith, runArranged, prepare,
        Action.perform_bind_of_error (Action.perform_bind_of_error read _)]
    | ok items =>
      have same : (scheduledJobs settings options find (fun _ => plain) []
            (plannedJobs settings options items)).perform machine loaded =
          (compilePlanned settings options find plain
            (plannedJobs settings options items)).perform machine loaded := by
        rw [scheduledJobs, compilePlanned]
        split
        · rfl
        · rw [Action.perform_bind, Action.perform_bind]
          simp only [perform_compileScheduled_nil]
      rw [runScheduled, Action.perform_bind_of_ok read, Action.perform_bind, same, runWith,
        runArranged, prepare, Action.perform_bind, Action.perform_bind_of_ok read,
        Action.perform_bind]
      rcases (compilePlanned settings options find plain
        (plannedJobs settings options items)).perform machine loaded with ⟨_ | compiled, ready⟩ <;> rfl

end NegativeCompile
