import NegativeCompile.Proofs.Run.Scheduling

/-! # Runs that are aborted

A run ends with a failure if no compiler is found or any job that was done gave a failure, whatever the
schedule of the workers (`runScheduled_of_aborts`). Nobody is told of anything then, no generated test
is written, and no fragment has results: whatever changed was changed by looking for the compiler or by
jobs. This rests on what every move of a pool preserves (`Pool.Sound.move`). -/

namespace NegativeCompile

open Files

variable {settings : Settings} {options : RunOptions} {find : Action Unit}
variable {compile : Bool → Job → Action CompileOutput} {workers : Int} {schedule : List Move}
variable {jobs : List Job} {paths : List Path} {items : List FragmentResult} {pool : Pool}
variable {finished : List (Job × Except Failure CompileOutput)} {failure : Failure}
variable {machine : Machine} {world after loaded last : World}

/-! ## What moves preserve -/

namespace Pool

/-- What holds of a pool of jobs, whatever was done. -/
structure Sound (machine : Machine) (compile : Bool → Job → Action CompileOutput) (jobs : List Job)
    (pool : Pool) : Prop where
  /-- No job is done but those that were put into the pool, and none is done twice. -/
  jobs : (pool.waiting ++ pool.running ++ pool.finished.map Prod.fst).Subperm jobs
  /-- What a job gave is what the compiler gave for it. -/
  gave : ∀ entry ∈ pool.finished, ∃ stopped before after,
    (compile stopped entry.1).perform machine before = (entry.2, after)
  /-- The failure that ends the run is that of a job. -/
  met : ∀ failure, pool.failure = some failure → failure ∈ failuresOf pool.finished

/-- A failure is one of those of some jobs just if it is what a job gave. -/
theorem mem_failuresOf_iff :
    failure ∈ failuresOf finished ↔ ∃ job, (job, .error failure) ∈ finished := by
  rw [failuresOf, List.mem_filterMap]
  constructor
  · rintro ⟨⟨job, outcome⟩, member, same⟩
    cases outcome with
    | ok => cases same
    | error => cases same; exact ⟨job, member⟩
  · rintro ⟨job, member⟩
    exact ⟨_, member, rfl⟩

namespace Sound

/-- At first nothing was done. -/
theorem ofJobs (jobs : List Job) : (Pool.ofJobs jobs).Sound machine compile jobs := by
  refine ⟨?_, fun _ member => absurd member List.not_mem_nil, nofun⟩
  simp [Pool.ofJobs, List.Subperm.refl]

/-- A worker takes a job that waits. -/
theorem started (sound : pool.Sound machine compile jobs) :
    (pool.started workers).Sound machine compile jobs := by
  obtain ⟨waiting, running, finished, failure⟩ := pool
  cases waiting with
  | nil => exact sound
  | cons job rest =>
    rw [Pool.started]
    dsimp only
    split
    · refine ⟨?_, sound.gave, sound.met⟩
      -- The job moves from one part of the pool to another one.
      have moved : (rest ++ (running ++ [job]) ++ finished.map Prod.fst).Perm
          (job :: rest ++ running ++ finished.map Prod.fst) := by
        rw [← List.append_assoc rest, List.cons_append]
        exact (List.perm_append_singleton job (rest ++ running)).append_right _
      exact moved.subperm.trans sound.jobs
    · exact sound

/-- A job that is being compiled ends. -/
theorem ended {index : Nat} {job : Job} {stopped : Bool} {outcome : Except Failure CompileOutput}
    (sound : pool.Sound machine compile jobs) (runs : pool.running[index]? = some job)
    (compiles : (compile stopped job).perform machine world = (outcome, after)) :
    (pool.ended index job outcome).Sound machine compile jobs := by
  refine ⟨?_, ?_, fun failure same => ?_⟩
  · obtain ⟨inside, rfl⟩ := List.getElem?_eq_some_iff.mp runs
    have moved : (pool.running.eraseIdx index ++
        (pool.finished ++ [(pool.running[index], outcome)]).map Prod.fst).Perm
          (pool.running ++ pool.finished.map Prod.fst) := by
      rw [List.map_append, ← List.append_assoc]
      refine (List.perm_append_singleton _ _).trans ?_
      exact (List.getElem_cons_eraseIdx_perm inside).append_right _
    have all := sound.jobs
    rw [List.append_assoc] at all
    rw [Pool.ended, List.append_assoc]
    exact (moved.append_left pool.waiting).subperm.trans all
  · rw [Pool.ended, List.forall_mem_append, List.forall_mem_singleton]
    exact ⟨sound.gave, stopped, world, after, compiles⟩
  · have before := sound.met failure same
    rw [Pool.ended, failuresOf_append]
    exact List.mem_append_left _ before

/-- The failure of a job is met. -/
theorem aborted (sound : pool.Sound machine compile jobs) (index : Nat) :
    (pool.aborted index).Sound machine compile jobs := by
  refine ⟨sound.jobs, sound.gave, fun failure same => ?_⟩
  rw [Pool.aborted, Option.or_eq_some_iff] at same
  rcases same with before | ⟨-, found⟩
  · exact sound.met failure before
  · exact List.mem_of_getElem? found

/-- No job waits any longer. -/
theorem cancelled (sound : pool.Sound machine compile jobs) :
    pool.cancelled.Sound machine compile jobs := by
  rw [Pool.cancelled]
  split
  · refine ⟨?_, sound.gave, sound.met⟩
    have all := sound.jobs
    rw [List.append_assoc] at all
    exact (List.sublist_append_right _ _).subperm.trans all
  · exact sound

end Sound

/-- The files are as changes of jobs have left them. -/
def ChangedBy (machine : Machine) (compile : Bool → Job → Action CompileOutput) (jobs : List Job)
    (before after : Tree) : Prop :=
  ∀ relation, Action.IsGradual relation →
    (∀ stopped, ∀ job ∈ jobs, Action.Changes relation (compile stopped job)) →
      relation machine before after

/-- A move succeeds; what holds of a pool holds after it, and files are changed by jobs only. -/
theorem Sound.move (sound : pool.Sound machine compile jobs) (workers : Int) (one : Move)
    (world : World) :
    ∃ next after, (pool.move compile workers one).perform machine world = (.ok next, after) ∧
      next.Sound machine compile jobs ∧ ChangedBy machine compile jobs world.tree after.tree := by
  have still : ChangedBy machine compile jobs world.tree world.tree :=
    fun relation gradual _ => gradual.refl machine world.tree
  cases one with
  | start => exact ⟨_, world, rfl, sound.started, still⟩
  | abort index => exact ⟨_, world, rfl, sound.aborted index, still⟩
  | cancel => exact ⟨_, world, rfl, sound.cancelled, still⟩
  | finish index =>
    rw [Pool.move]
    cases runs : pool.running[index]? with
    | none => exact ⟨pool, world, rfl, sound, still⟩
    | some job =>
      have observed := Action.perform_observing (compile pool.failure.isSome job) machine world
      refine ⟨_, _, Action.perform_bind_of_ok observed _, sound.ended runs rfl, ?_⟩
      intro relation _ changes
      have listed : job ∈ jobs := by
        refine sound.jobs.subset ?_
        simp [List.mem_of_getElem? runs]
      exact changes _ job listed machine world

/-- So do moves in a row. -/
theorem Sound.moves (sound : pool.Sound machine compile jobs) (workers : Int) (moves : List Move)
    (world : World) :
    ∃ next after,
      (moves.foldlM (Pool.move compile workers) pool).perform machine world = (.ok next, after) ∧
        next.Sound machine compile jobs ∧ ChangedBy machine compile jobs world.tree after.tree := by
  induction moves generalizing pool world with
  | nil => exact ⟨pool, world, rfl, sound, fun relation gradual _ => gradual.refl machine world.tree⟩
  | cons one rest ih =>
    obtain ⟨next, between, made, kept, changed⟩ := sound.move workers one world
    obtain ⟨final, after, others, holds, more⟩ := ih kept between
    rw [List.foldlM_cons, Action.perform_bind_of_ok made]
    refine ⟨final, after, others, holds, fun relation gradual changes => ?_⟩
    exact gradual.trans _ _ _ _ (changed relation gradual changes) (more relation gradual changes)

/-! ## What a pool gives -/

/-- If a job failed there is no table but the failure of a job. -/
theorem exists_failure_of_tableOf (failed : failuresOf finished ≠ []) :
    ∃ failure ∈ failuresOf finished, tableOf finished = .error failure := by
  induction finished using List.reverseRecOn with
  | nil => exact absurd rfl failed
  | append_singleton finished entry ih =>
    obtain ⟨job, outcome⟩ := entry
    rw [tableOf_append, failuresOf_append]
    by_cases earlier : failuresOf finished = []
    · obtain ⟨compiled, found⟩ := exists_tableOf earlier
      rw [failuresOf_append, earlier, List.nil_append] at failed
      cases outcome with
      | ok => exact absurd rfl failed
      | error failure =>
        rw [found]
        exact ⟨failure, List.mem_append_right _ List.mem_cons_self, rfl⟩
    · obtain ⟨failure, member, found⟩ := ih earlier
      rw [found]
      exact ⟨failure, List.mem_append_left _ member, rfl⟩

/-- If a job failed a pool gives the failure of a job. -/
theorem Sound.exists_failure (sound : pool.Sound machine compile jobs)
    (failed : failuresOf pool.finished ≠ []) :
    ∃ failure ∈ failuresOf pool.finished, pool.result = .error failure := by
  rw [result]
  cases met : pool.failure with
  | none => exact exists_failure_of_tableOf failed
  | some failure => exact ⟨failure, sound.met failure met, rfl⟩

/-- Following a schedule keeps what holds of a pool, and files are changed by jobs only. -/
theorem sound_of_operate
    (operated : (operate compile workers schedule jobs).perform machine world = (.ok pool, after)) :
    pool.Sound machine compile jobs ∧ ChangedBy machine compile jobs world.tree after.tree := by
  obtain ⟨errors, noted⟩ := Action.perform_note machine world .running
    s!"running {jobs.length} compile job(s) with {workers} worker(s)"
  rw [operate, Action.perform_bind_of_ok noted] at operated
  dsimp only at operated
  split at operated
  · rw [Action.perform_bind_of_error (Action.perform_throw _)] at operated
    cases operated
  · obtain ⟨next, last, made, sound, changed⟩ := (Sound.ofJobs jobs).moves workers
      (schedule ++ (List.replicate jobs.length Move.round).flatten) (world.withErrors errors)
    cases made.symm.trans operated
    exact ⟨sound, changed⟩

end Pool

/-! ## Runs -/

/-- The jobs of a run fail, in the world that what was done has left: no compiler is found, or a job
that was done gave a failure. -/
inductive Aborts (settings : Settings) (options : RunOptions) (find : Action Unit)
    (compile : Bool → Job → Action CompileOutput) (schedule : List Move) (jobs : List Job)
    (machine : Machine) (world : World) : Failure → World → Prop where
  /-- No compiler is found. -/
  | unavailable {failure : Failure} {last : World}
      (fails : find.perform machine world = (.error failure, last)) :
      Aborts settings options find compile schedule jobs machine world failure last
  /-- A job gave a failure. -/
  | failed {ready last : World} {pool : Pool} {job : Job} {failure : Failure}
      (finds : find.perform machine world = (.ok (), ready))
      (operated : (Pool.operate compile (options.jobsFor settings) schedule jobs).perform machine ready =
        (.ok pool, last))
      (gave : (job, .error failure) ∈ pool.finished) :
      Aborts settings options find compile schedule jobs machine world failure last

/-- If the jobs of a run can fail, then compiling them ends with such a failure, and has done nothing
else but put it on record. -/
theorem exists_perform_scheduledJobs (planned : jobs ≠ [])
    (aborts : Aborts settings options find compile schedule jobs machine world failure last) :
    ∃ failure last errors,
      Aborts settings options find compile schedule jobs machine world failure last ∧
        (scheduledJobs settings options find compile schedule jobs).perform machine world =
          (.error failure, last.withErrors errors) := by
  have needed : ¬ jobs.isEmpty = true := by simpa using planned
  rw [scheduledJobs, if_neg needed]
  cases aborts with
  | unavailable fails =>
    exact ⟨_, _, _, .unavailable fails, Action.perform_bind_of_error fails _⟩
  | @failed ready last pool job failure finds operated gave =>
    have sound := (Pool.sound_of_operate operated).1
    obtain ⟨chosen, member, result⟩ :=
      sound.exists_failure (List.ne_nil_of_mem (Pool.mem_failuresOf_iff.mpr ⟨job, gave⟩))
    obtain ⟨other, also⟩ := Pool.mem_failuresOf_iff.mp member
    obtain ⟨errors, warned⟩ := Action.perform_warn machine last .running
      s!"aborting run, terminating compilers: {chosen.message}"
    refine ⟨chosen, last, errors, .failed finds operated also, ?_⟩
    rw [Action.perform_bind_of_ok finds, compileScheduled, Action.perform_bind_of_ok operated, result]
    exact Action.perform_bind_of_ok warned _

/-- Once the jobs of a run have failed the files are in any relation to what they were that looking for
the compiler and jobs preserve. -/
theorem Aborts.relates
    (aborts : Aborts settings options find compile schedule jobs machine world failure last)
    {relation : Machine → Tree → Tree → Prop} (gradual : Action.IsGradual relation)
    (search : Action.Changes relation find)
    (changes : ∀ stopped, ∀ job ∈ jobs, Action.Changes relation (compile stopped job)) :
    relation machine world.tree last.tree := by
  have first := search machine world
  cases aborts with
  | unavailable fails =>
    rw [fails] at first
    exact first
  | failed finds operated =>
    rw [finds] at first
    exact gradual.trans _ _ _ _ first ((Pool.sound_of_operate operated).2 relation gradual changes)

/-- If any job is planned and no compiler is found or some job that was done gave a failure, then a run
ends with such a failure, whatever the schedule of the workers and whatever other jobs have given.
Whoever is to be told of results, the world is the one in which looking for the compiler or the last
job has left it, but for the record of the failure: nobody was told of a fragment, and the files, those
of generated tests among them, are in any relation to what they were that looking for the compiler and
jobs preserve. No fragment has results of cases or a generated test. -/
theorem runScheduled_of_aborts
    (read : (loadFragments settings.baseDir paths).perform machine world = (.ok items, loaded))
    (planned : plannedJobs settings options items ≠ [])
    (aborts : ∃ failure last, Aborts settings options find compile schedule
      (plannedJobs settings options items) machine loaded failure last) :
    ∃ failure last errors,
      Aborts settings options find compile schedule (plannedJobs settings options items) machine loaded
          failure last ∧
        (∀ (σ : Type) (observe : Observer σ) (state : σ),
          (runScheduled settings options find compile schedule paths observe state).perform machine
            world = (.error failure, last.withErrors errors)) ∧
        (∀ relation, Action.IsGradual relation → Action.Changes relation find →
          (∀ stopped, ∀ job ∈ plannedJobs settings options items,
            Action.Changes relation (compile stopped job)) → relation machine world.tree last.tree) ∧
        ∀ item ∈ items, item.cases = [] ∧ item.artifact = none := by
  obtain ⟨_, _, possible⟩ := aborts
  obtain ⟨failure, last, errors, aborts, performed⟩ := exists_perform_scheduledJobs planned possible
  obtain ⟨reads, -, files⟩ := loadFragments_eq_ok read
  refine ⟨failure, last, errors, aborts, fun σ observe state => ?_,
    fun relation gradual search changes => ?_, fun item member => ?_⟩
  · rw [runScheduled, Action.perform_bind_of_ok read, Action.perform_bind_of_error performed]
  · rw [← files]
    exact aborts.relates gradual search changes
  · obtain ⟨path, -, readAs⟩ := reads.exists_of_mem_right member
    exact readAs.isFresh

/-- If the compiler of the sample is lost then a run on it is aborted, whoever is to be told of it. -/
theorem runScheduled_of_lost_compiler :
    ∃ (compile : Bool → Job → Action CompileOutput) (failure : Failure) (after : World),
      plannedJobs Sample.settings { } [Sample.item] ≠ [] ∧
        ∀ (σ : Type) (observe : Observer σ) (state : σ),
          (runScheduled Sample.settings { } (return ()) compile [.start] Sample.settings.fragments observe
            state).perform Sample.machine Sample.world = (.error failure, after) := by
  let compile : Bool → Job → Action CompileOutput := fun _ _ => throw (.infrastructure "lost")
  have chosen : RunOptions.chosenCases { } Sample.fragment ≠ [] := by decide
  have files : Sample.world.tree = Sample.tree := rfl
  obtain ⟨errors, read⟩ := Sample.loadFragments_settings files rfl
  have jobs : plannedJobs Sample.settings { } [Sample.item] = [Sample.job] :=
    Sample.plannedJobs_item chosen
  have planned : plannedJobs Sample.settings { } [Sample.item] ≠ [] := by
    rw [jobs]
    exact List.cons_ne_nil _ _
  have aborts : ∃ failure last, Aborts Sample.settings { } (return ()) compile [.start]
      (plannedJobs Sample.settings { } [Sample.item]) Sample.machine
        (Sample.world.withErrors errors) failure last := by
    rw [jobs]
    exact ⟨_, _, .failed rfl rfl List.mem_cons_self⟩
  obtain ⟨failure, last, record, -, ends, -⟩ := runScheduled_of_aborts read planned aborts
  exact ⟨compile, failure, _, planned, ends⟩

end NegativeCompile
