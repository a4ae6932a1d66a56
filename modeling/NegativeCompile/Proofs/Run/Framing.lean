import NegativeCompile.Proofs.Action
import NegativeCompile.Running

/-! # Frames of runs

What a run does besides looking around and keeping records is done in four places: when the directory of
a job is made, when an observer is told of a result, when a generated test is written, and by whatever is
given as the compiler. If these stay in a frame then so do the parts of a run. -/

namespace NegativeCompile

open Files

variable {relation : Machine → World → World → Prop} {settings : Settings} {options : RunOptions}
variable {job : Job} {jobs : List Job} {find : Action Unit} {compile : Job → Action CompileOutput}
variable {σ : Type} {inv : σ → Prop} {observe : Observer σ} {workdir : Option Path} {state last : σ}
variable {compiled : CompiledJobs} {items results : List FragmentResult}

/-! ## Compiling -/

namespace Compiler

/-- Looking for the compiler changes nothing. -/
theorem stays_find (frame : Action.IsFrame relation) (compiler : Compiler) :
    Action.Stays relation compiler.find := by
  unfold find
  refine .bind frame (.of_eq frame fun _ _ => rfl) fun machine => ?_
  refine .bind frame (.of_eq frame fun _ _ => rfl) fun world => ?_
  split
  · exact .pure frame _
  · exact .throw frame _

/-- Launching the compiler stays in a frame if making the directory of the job does. -/
theorem stays_launch (frame : Action.IsFrame relation) (compiler : Compiler)
    (makes : Action.Stays relation (Action.file fun here => makeDirectories here job.directory)) :
    Action.Stays relation (compiler.launch job) := by
  unfold launch
  dsimp only
  split
  · exact .of_eq frame fun _ _ => rfl
  · refine .bind frame makes fun _ => .bind frame (.note frame _ _) fun _ => ?_
    split
    · exact .of_eq frame fun _ _ => rfl
    · refine .bind frame (.of_eq frame fun _ _ => rfl) fun machine => ?_
      refine .bind frame (.of_eq frame fun _ _ => rfl) fun place => ?_
      split
      · exact .pure frame _
      · exact .throw frame _

/-- Compiling a job stays in a frame if making the directory of the job does. -/
theorem stays_compile (frame : Action.IsFrame relation) (compiler : Compiler)
    (makes : Action.Stays relation (Action.file fun here => makeDirectories here job.directory)) :
    Action.Stays relation (compiler.compile job) := by
  unfold compile
  refine .bind frame (stays_launch frame compiler makes) fun launch => ?_
  refine .bind frame (.lift frame _) fun _ => ?_
  refine .bind frame (.of_eq frame fun _ _ => rfl) fun machine => ?_
  dsimp only
  split
  · refine .bind frame (.warn frame _ _) fun _ => ?_
    split
    · exact .pure frame _
    · exact .throw frame _
  · split
    · exact .pure frame _
    · exact .throw frame _

end Compiler

/-- Compiling jobs one after another stays in a frame if compiling each does. -/
theorem stays_compileFrom (frame : Action.IsFrame relation)
    (each : ∀ job ∈ jobs, Action.Stays relation (compile job)) (serial : Nat) :
    Action.Stays relation (compileFrom compile serial jobs) := by
  induction jobs generalizing serial with
  | nil => exact .pure frame _
  | cons job rest ih =>
    refine .bind frame (each job List.mem_cons_self) fun output => ?_
    refine .bind frame (ih (fun other member => each other (List.mem_cons_of_mem _ member)) _)
      fun others => ?_
    exact .pure frame _

/-- Compiling the jobs of a run stays in a frame if looking for the compiler and compiling each do. -/
theorem stays_compilePlanned (frame : Action.IsFrame relation) (looks : Action.Stays relation find)
    (each : ∀ job ∈ jobs, Action.Stays relation (compile job)) :
    Action.Stays relation (compilePlanned settings options find compile jobs) := by
  unfold compilePlanned
  split
  · exact .pure frame _
  · refine .bind frame looks fun _ => ?_
    unfold compileJobs
    refine .bind frame (.note frame _ _) fun _ => ?_
    dsimp only
    split
    · exact .of_eq frame fun _ _ => rfl
    · refine .tryCatch frame (stays_compileFrom frame each 0) fun failure => ?_
      exact .bind frame (.warn frame _ _) fun _ => .throw frame _

/-! ## Telling and writing -/

/-- An observer keeps what holds of its state, and stays in a frame as long as that holds. -/
structure Observer.StaysWhile (relation : Machine → World → World → Prop) (inv : σ → Prop)
    (observe : Observer σ) : Prop where
  /-- It stays in the frame. -/
  stays : ∀ state, inv state → ∀ result index total,
    Action.Stays relation (observe state result index total)
  /-- What holds of the state is kept. -/
  keeps : ∀ state, inv state → ∀ result index total machine world next after,
    (observe state result index total).perform machine world = (.ok next, after) → inv next

/-- Judging fragments and telling an observer of them stays in a frame if the observer does. -/
theorem stays_collectAll (frame : Action.IsFrame relation) (told : observe.StaysWhile relation inv)
    (holds : inv state) (total index : Nat) :
    Action.Stays relation
      (collectAll options workdir compiled observe total state index items) := by
  induction items generalizing state index with
  | nil => exact .pure frame _
  | cons item rest ih =>
    refine .bind frame (.of_eq frame fun _ _ => rfl) fun place => ?_
    refine .bind frame (.lift frame _) fun result => ?_
    refine .bind_of_returns frame (told.stays state holds result index total)
      fun next machine world after observed => ?_
    have kept := told.keeps state holds result index total machine world next after observed
    exact .bind frame (ih kept (index + 1)) fun others => .pure frame _

/-- What holds of the state of an observer still holds when it was told of all fragments. -/
theorem inv_of_collectAll (told : observe.StaysWhile relation inv) (holds : inv state)
    {total index : Nat} {machine : Machine} {world after : World}
    (returns : (collectAll options workdir compiled observe total state index items).perform machine
      world = (.ok (results, last), after)) : inv last := by
  induction items generalizing state index world results with
  | nil =>
    cases returns
    exact holds
  | cons item rest ih =>
    obtain ⟨_, _, -, returns⟩ := Action.perform_bind_eq_ok_iff.mp returns
    obtain ⟨result, _, -, returns⟩ := Action.perform_bind_eq_ok_iff.mp returns
    obtain ⟨next, _, observed, returns⟩ := Action.perform_bind_eq_ok_iff.mp returns
    obtain ⟨⟨others, final⟩, _, collected, equal⟩ := Action.perform_bind_eq_ok_iff.mp returns
    cases equal
    exact ih (told.keeps state holds _ _ _ _ _ _ _ observed) collected

/-- What holds of the state of an observer still holds at the end of a run. -/
theorem inv_of_runWith (told : observe.StaysWhile relation inv) (holds : inv state) {paths : List Path}
    {machine : Machine} {world after : World} {run : RunResult}
    (returns : (runWith settings options find compile paths observe state).perform machine world =
      (.ok (run, last), after)) : inv last := by
  obtain ⟨⟨items, compiled⟩, ready, -, rest⟩ := Action.perform_bind_eq_ok_iff.mp returns
  obtain ⟨⟨written, final⟩, _, settled, equal⟩ := Action.perform_bind_eq_ok_iff.mp rest
  cases equal
  obtain ⟨⟨results, kept⟩, between, collected, wrote⟩ := Action.perform_bind_eq_ok_iff.mp settled
  obtain ⟨found, _, -, equal⟩ := Action.perform_bind_eq_ok_iff.mp wrote
  cases equal
  exact inv_of_collectAll told holds collected

/-- Writing the generated tests of fragments stays in a frame if writing each does. -/
theorem stays_writeArtifacts (frame : Action.IsFrame relation)
    (each : ∀ result ∈ results, Action.Stays relation (Artifact.write result settings.artifact.header
      settings.artifact.suite (Artifact.targetOf result settings.outputDir))) :
    Action.Stays relation (writeArtifacts settings results) := by
  induction results with
  | nil => exact .pure frame _
  | cons result rest ih =>
    refine .bind frame (each result List.mem_cons_self) fun written => ?_
    refine .bind frame (ih fun other member => each other (List.mem_cons_of_mem _ member))
      fun others => ?_
    exact .pure frame _

end NegativeCompile
