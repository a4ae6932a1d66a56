import NegativeCompile.Proofs.Run.Framing
import NegativeCompile.Proofs.Files.Reaching
import NegativeCompile.Proofs.Run.Settling

/-! # What a run changes

The parts of a run stay within a reach that covers the directories of its jobs and its generated tests:
compiling a job makes the directory of the job (`changes_compile`), and writing a generated test makes
the directory of the output and writes one file (`changes_write`). So what is done once fragments have
been read stays within it (`changes_proceed`). -/

namespace NegativeCompile

open Files

/-! ## Steps of actions -/

namespace Files.Within

variable {α β : Type} {reach : Reach}

/-- The outcome of a step may be looked at. -/
theorem of_run {step : Filing α} {next : Except Trouble α → ExceptT Failure (StateM Tree) β}
    (first : Within reach step) (second : ∀ outcome, Within reach (next outcome)) :
    Within reach ((liftM (ExceptT.run step : StateM Tree (Except Trouble α)) :
      ExceptT Failure (StateM Tree) (Except Trouble α)) >>= next) := by
  intro tree clear
  have bounds := first tree clear
  exact bounds.trans (second _ _ (bounds.isClear clear))

end Files.Within

namespace Files.Reach

/-- A tree changes within a reach if no link leads away from it. -/
def Steps (reach : Reach) (_ : Machine) (before after : Tree) : Prop :=
  reach.IsClear before → reach.Bounds before after

/-- Changes within a reach may follow each other. -/
theorem isGradual_steps (reach : Reach) : Action.IsGradual reach.Steps :=
  ⟨fun _ tree _ => reach.bounds_refl tree, fun _ _ _ _ first second clear =>
    (first clear).trans (second ((first clear).isClear clear))⟩

end Files.Reach

namespace Action

variable {α : Type} {reach : Reach}

/-- A step on the files stays within a reach as an action. -/
theorem changes_withTree {step : Place → ExceptT Failure (StateM Tree) α}
    (within : ∀ here, Within reach (step here)) : Changes reach.Steps (withTree step) := by
  intro machine world clear
  have bounds := within machine.here world.tree clear
  rw [withTree, perform_bind_of_ok perform_get, perform_bind_of_ok perform_read]
  rcases outcome : ((step machine.here).run).run world.tree with ⟨_ | value, after⟩ <;>
    rw [outcome] at bounds <;> exact bounds

/-- A step that the file system may refuse stays within a reach as an action. -/
theorem changes_file {step : Place → Filing α} (within : ∀ here, Within reach (step here)) :
    Changes reach.Steps (file step) :=
  changes_withTree fun here => (within here).of_run fun outcome => by
    cases outcome with
    | ok value => exact .pure value
    | error trouble => exact .throw _

end Action

/-! ## Compiling -/

variable {reach : Reach} {job : Job} {jobs : List Job} {settings : Settings} {options : RunOptions}

/-- A reach covers making the directory of a job. -/
structure Files.Reach.CoversJob (reach : Reach) (job : Job) : Prop where
  /-- The directory is a plain path. -/
  plain : job.directory.IsPlain
  /-- It may be made, and those above it. -/
  made : ∀ above, above <+: job.directory.parts → reach.made above

/-- Compiling a job makes its directory. -/
theorem Compiler.changes_compile (compiler : Compiler) (covered : reach.CoversJob job) :
    Action.Changes reach.Steps (compiler.compile job) :=
  compiler.stays_compile reach.isGradual_steps.isFrame
    (Action.changes_file fun _ => within_makeDirectories covered.plain covered.made)

/-! ## Writing -/

namespace Artifact

/-- A reach covers writing a file. -/
structure Covers (reach : Reach) (target : Path) : Prop where
  /-- The target is a plain path. -/
  plain : target.IsPlain
  /-- The directories above it may be made. -/
  made : ∀ above, above <+: target.parent.parts → reach.made above
  /-- The file may be written. -/
  written : reach.written target.parts

/-- Writing the file of a fragment makes the directories above it and writes it. -/
theorem changes_write {target : Path} (covered : Covers reach target) (result : FragmentResult)
    (header : String) (suite : Option String) :
    Action.Changes reach.Steps (write result header suite target) := by
  have gradual := reach.isGradual_steps
  refine .bind gradual (Action.changes_withTree fun here => ?_) fun _ =>
    .bind gradual (.note gradual _ _) fun _ => .pure gradual _
  have filing : Within reach (do
      makeDirectories here target.parent
      writeBytes here target.toString (Text.encodeUtf8 (render result header suite)) : Filing Unit) :=
    .bind (within_makeDirectories covered.plain.parent covered.made) fun _ =>
      within_writeBytes covered.plain covered.written _
  refine filing.of_run fun outcome => ?_
  split
  · exact .pure _
  · exact .throw _
  · exact .throw _

end Artifact

/-! ## Runs -/

/-- The result of judging a fragment has the key of the fragment. -/
theorem key_eq_of_collect {place : Surroundings} {compiled : CompiledJobs} {workdir : Option Path}
    {item result : FragmentResult}
    (collected : collect place options workdir compiled item = .ok result) :
    result.key = item.key := by
  unfold collect at collected
  split at collected
  · rw [← Except.ok.inj collected]
  · obtain ⟨whole, -, rest⟩ := Except.bind_eq_ok_iff.mp collected
    obtain ⟨cases, -, equal⟩ := Except.bind_eq_ok_iff.mp rest
    rw [← Except.ok.inj equal]

/-- What a run does once fragments have been read. -/
def proceed {σ : Type} (settings : Settings) (options : RunOptions) (find : Action Unit)
    (compile : Job → Action CompileOutput) (observe : Observer σ) (state : σ)
    (items : List FragmentResult) : Action (RunResult × σ) := do
  let compiled ←
    compilePlanned settings options find compile (plannedJobs settings options items)
  let (results, last) ← settle settings options compiled observe state items
  return (⟨results, .fraction (totalDuration compiled)⟩, last)

/-- A run reads fragments and proceeds. -/
theorem runWith_eq {σ : Type} (settings : Settings) (options : RunOptions) (find : Action Unit)
    (compile : Job → Action CompileOutput) (paths : List Path) (observe : Observer σ) (state : σ) :
    runWith settings options find compile paths observe state =
      loadFragments settings.baseDir paths >>=
        proceed settings options find compile observe state := by
  unfold runWith runArranged prepare proceed
  simp only [bind_assoc, pure_bind, id]

/-- What a run does once fragments have been read stays within a reach that covers the jobs and the
generated tests. -/
theorem changes_proceed {σ : Type} {find : Action Unit} {compile : Job → Action CompileOutput}
    {observe : Observer σ} {items : List FragmentResult}
    (looks : Action.Changes reach.Steps find)
    (compiles : ∀ job ∈ plannedJobs settings options items,
      Action.Changes reach.Steps (compile job))
    (told : ∀ state result index total,
      Action.Changes reach.Steps (observe state result index total))
    (covered : ∀ item ∈ items, Artifact.Covers reach (Artifact.targetOf item settings.outputDir))
    (state : σ) :
    Action.Changes reach.Steps (proceed settings options find compile observe state items) := by
  have gradual := reach.isGradual_steps
  have observes : observe.StaysWhile (fun machine before after =>
      reach.Steps machine before.tree after.tree) fun _ => True :=
    ⟨fun state _ => told state, fun _ _ _ _ _ _ _ _ _ _ => trivial⟩
  refine .bind gradual (stays_compilePlanned gradual.isFrame looks compiles) fun compiled => ?_
  refine .bind gradual ?_ fun results => .pure gradual _
  refine .bind_of_returns gradual (stays_collectAll gradual.isFrame observes trivial _ 1)
    fun ⟨results, last⟩ machine world after collected => ?_
  refine .bind gradual ?_ fun written => .pure gradual _
  unfold writeRequested
  split
  · refine stays_writeArtifacts gradual.isFrame fun result member =>
      Artifact.changes_write ?_ _ _ _
    obtain ⟨item, listed, place, one⟩ :=
      (exists_collect_of_collectAll collected).exists_of_mem_right member
    have key := key_eq_of_collect one
    rw [Artifact.targetOf, key]
    exact covered item listed
  · exact .pure gradual _

end NegativeCompile
