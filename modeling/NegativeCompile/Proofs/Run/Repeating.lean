import NegativeCompile.Proofs.Job.JobFiles
import NegativeCompile.Proofs.Files.Refiling

/-! # Actions that can be repeated

An action that read files at some places and wrote files can be repeated (`Action.Redone`): once more,
after the files have grown but are as they were where it reads, it gives the same and puts the same
files where they are already. So it is with all actions that a run is made of, if each can be
repeated (`Action.Repeatable`): those in a row, writing a generated test, and compiling jobs by a
compiler that goes by its arguments and the source, and writes no other files than those of its job
(`compileReacting`). -/

namespace NegativeCompile

open Files

variable {α β : Type} {machine : Machine} {world : World} {reads : Place → Prop}
variable {sources paths more : List Path} {before between after tree : Tree}
variable {puts : List (Place × Entry)} {here : Place}

/-! ## What is read -/

/-- Some paths lead to places that are read, in a tree in which whatever lies in it lies in
directories. -/
structure Bears (here : Place) (reads : Place → Prop) (sources : List Path) (tree : Tree) : Prop where
  /-- Whatever lies in the tree lies in directories. -/
  grounded : tree.IsGrounded
  /-- There is a directory where relative paths start. -/
  directory : tree.entry? here = some .directory
  /-- There is something at every place that is read. -/
  present : ∀ place, reads place → tree.entry? place ≠ none
  /-- Every path leads to a place that is read. -/
  leads : ∀ path ∈ sources, ∃ place entry, reads place ∧
    walk tree here true path.toString = .ok ⟨place, some entry⟩

/-- Paths lead to the same places after files were written. -/
theorem Bears.of_written (bears : Bears here reads sources before)
    (written : before.Written puts after) : Bears here reads sources after where
  grounded := written.isGrounded bears.grounded
  directory := written.grows.directory bears.directory
  present place read := by
    obtain ⟨entry, lies⟩ := Option.ne_none_iff_exists'.mp (bears.present place read)
    obtain ⟨later, there, -⟩ := written.grows.kept place entry lies
    rw [there]
    exact Option.some_ne_none _
  leads path member := by
    obtain ⟨place, entry, read, walked⟩ := bears.leads path member
    have lies := entry_of_walk walked
    obtain ⟨later, there, -⟩ := written.grows.kept place entry lies.symm
    refine ⟨place, later, read, ?_⟩
    rw [written.grows.walk_ok walked, there]

/-- A path leads to the same if the same lies where it led. -/
theorem status_eq_of_grows {text : String} {place : Place} {entry : Entry}
    (grows : before.Grows after) (walked : walk before here true text = .ok ⟨place, some entry⟩)
    (same : after.entry? place = before.entry? place) :
    status after here text = status before here text := by
  have lies := entry_of_walk walked
  have again := grows.walk_ok walked
  rw [same, ← lies] at again
  rw [status, again, status, walked]

/-- What can be read at a path depends on what it leads to. -/
theorem readBytes_congr {text : String} (same : status after here text = status before here text) :
    readBytes after here text = readBytes before here text := by
  rw [readBytes, readBytes, same]

/-! ## Steps -/

/-- A step that takes what another one gives goes on where that one ended. -/
theorem run_lift_bind {ε γ : Type} (step : StateM Tree γ) (next : γ → ExceptT ε (StateM Tree) α)
    (tree : Tree) : (((liftM step >>= next : ExceptT ε (StateM Tree) α)).run).run tree =
      ((next (step.run tree).1).run).run (step.run tree).2 := rfl

/-- A step that the file system may refuse succeeds with another wording of its trouble just if it
does. -/
theorem run_file_eq_ok_iff {step : Filing α} {value : α} :
    (((do
      match ← step.run with
      | .ok value => return value
      | .error trouble => throw (.ofTrouble trouble) : ExceptT Failure (StateM Tree) α)).run).run tree =
        (.ok value, after) ↔ (step.run).run tree = (.ok value, after) := by
  rw [run_lift_bind]
  rcases (step.run).run tree with ⟨_ | found, last⟩
  · exact iff_of_false nofun nofun
  · constructor <;> intro equal <;> cases equal <;> rfl

/-- A generated test is written just if its directories can be made and its file can be written. -/
theorem Artifact.run_writeFile_eq_ok_iff {target : Path} {text : String} {value : Unit} :
    ((writeFile target text here).run).run tree = (.ok value, after) ↔
      (((do
        makeDirectories here target.parent
        writeBytes here target.toString (Text.encodeUtf8 text) : Filing Unit)).run).run tree =
          (.ok value, after) := by
  rw [writeFile, run_lift_bind]
  rcases (((do
    makeDirectories here target.parent
    writeBytes here target.toString (Text.encodeUtf8 text) : Filing Unit)).run).run tree with
      ⟨(_ | _) | found, last⟩
  · exact iff_of_false nofun nofun
  · exact iff_of_false nofun nofun
  · constructor <;> intro equal <;> cases equal <;> rfl

/-! ## Actions -/

namespace Action

/-- What becomes of a step that changes files. -/
theorem perform_withTree (step : Place → ExceptT Failure (StateM Tree) α) :
    (withTree step).perform machine world =
      ((((step machine.here).run).run world.tree).1,
        { world with tree := (((step machine.here).run).run world.tree).2 }) := by
  rw [withTree, perform_bind_of_ok perform_get, perform_bind_of_ok perform_read]
  rcases ((step machine.here).run).run world.tree with ⟨_ | value, after⟩ <;> rfl

/-- If files could be changed the step that does it succeeded. -/
theorem run_of_perform_withTree {step : Place → ExceptT Failure (StateM Tree) α} {value : α}
    {after : World} (succeeds : (withTree step).perform machine world = (.ok value, after)) :
    ((step machine.here).run).run world.tree = (.ok value, after.tree) := by
  rw [perform_withTree] at succeeds
  obtain ⟨found, rfl⟩ := Prod.mk.inj succeeds
  exact Prod.ext found rfl

/-- Files are changed by a step that the file system does not refuse. -/
theorem perform_file_of_ok {step : Place → Filing α} {value : α}
    (done : ((step machine.here).run).run world.tree = (.ok value, tree)) :
    (file step).perform machine world = (.ok value, { world with tree := tree }) :=
  perform_withTree_of_ok (run_file_eq_ok_iff.mpr done)

/-- An action put files at some places to which some paths lead. It gives the same once more, and does
no more than put the same files again, if the files have grown in the meantime and are as they were
where it reads. -/
structure Redone (machine : Machine) (reads : Place → Prop) (paths : List Path) (action : Action α)
    (value : α) (before : Tree) (puts : List (Place × Entry)) (after : Tree) : Prop where
  /-- What was done. -/
  written : before.Written puts after
  /-- Where files were put. -/
  named : ∀ put ∈ puts, ∃ path ∈ paths, ∃ entry,
    walk after machine.here true path.toString = .ok ⟨put.1, entry⟩
  /-- What is done again. -/
  again : (∀ put ∈ puts, ¬ reads put.1) → ∀ later : World, after.Grows later.tree →
    (∀ place, reads place → later.tree.entry? place = before.entry? place) →
      ∃ last, action.perform machine later = (.ok value, last) ∧ last.tree = later.tree.put puts

/-- Whenever an action succeeds it can be repeated. -/
def Repeatable (machine : Machine) (reads : Place → Prop) (sources paths : List Path)
    (action : Action α) : Prop :=
  ∀ world value after, Bears machine.here reads sources world.tree →
    action.perform machine world = (.ok value, after) →
      ∃ puts, Redone machine reads paths action value world.tree puts after.tree

namespace Repeatable

variable {action : Action α}

/-- An action can be repeated if it gives the same in any world and leaves files alone. -/
theorem of_constant (value : α)
    (constant : ∀ world, ∃ last, action.perform machine world = (.ok value, last) ∧
      last.tree = world.tree) : Repeatable machine reads sources [] action := by
  intro world found after _ succeeds
  obtain ⟨last, performed, same⟩ := constant world
  cases performed.symm.trans succeeds
  refine ⟨[], ?_, fun put member => absurd member List.not_mem_nil, fun _ later _ _ => constant later⟩
  rw [same]
  exact .done _

theorem pure (value : α) : Repeatable machine reads sources [] (Pure.pure value : Action α) :=
  .of_constant value fun world => ⟨world, rfl, rfl⟩

theorem note (source : RecordSource) (message : String) :
    Repeatable machine reads sources [] (Action.note source message) :=
  .of_constant () fun _ => ⟨_, rfl, rfl⟩

/-- A result that is there already is there again. -/
theorem lift (found : Except Failure α) :
    Repeatable machine reads sources [] (liftM found : Action α) := by
  cases found with
  | ok value => exact .pure value
  | error failure =>
    intro world value after _ succeeds
    cases succeeds

/-- Two actions in a row can be repeated if each can. -/
theorem bind {next : α → Action β} (first : Repeatable machine reads sources paths action)
    (second : ∀ value, Repeatable machine reads sources more (next value)) :
    Repeatable machine reads sources (paths ++ more) (action >>= next) := by
  intro world result after bears succeeds
  obtain ⟨value, between, one, other⟩ := perform_bind_eq_ok_iff.mp succeeds
  obtain ⟨puts, redone⟩ := first world value between bears one
  have carried := bears.of_written redone.written
  obtain ⟨others, redoneNext⟩ := second value between result after carried other
  refine ⟨puts ++ others, redone.written.trans redoneNext.written, fun put member => ?_,
    fun apart later grows same => ?_⟩
  · rcases List.mem_append.mp member with here | there
    · obtain ⟨path, listed, entry, walked⟩ := redone.named put here
      exact ⟨path, List.mem_append_left _ listed, _, redoneNext.written.grows.walk_ok walked⟩
    · obtain ⟨path, listed, walked⟩ := redoneNext.named put there
      exact ⟨path, List.mem_append_right _ listed, walked⟩
  · have apartFirst : ∀ put ∈ puts, ¬ reads put.1 :=
      fun put member => apart put (List.mem_append_left _ member)
    have apartNext : ∀ put ∈ others, ¬ reads put.1 :=
      fun put member => apart put (List.mem_append_right _ member)
    -- The first action is done again in the tree that has grown, and only fills it.
    have since := redoneNext.written.grows.trans grows
    have takes := redone.written.takesFiles.of_grows since
    obtain ⟨last, performed, put⟩ := redone.again apartFirst later since same
    have further : after.tree.Grows last.tree := by
      rw [put]
      exact grows.trans takes.fills.toGrows
    obtain ⟨final, performedNext, putNext⟩ := redoneNext.again apartNext last further fun place read => by
      have elsewhere : ∀ put ∈ puts, put.1 ≠ place := by
        rintro put member rfl
        exact apartFirst put member read
      rw [put, takes.entry?_put elsewhere, same place read,
        redone.written.entry?_eq (bears.present place read) elsewhere]
    refine ⟨final, ?_, ?_⟩
    · rw [perform_bind_of_ok performed, performedNext]
    · rw [putNext, put, Tree.put_append]

/-- Files may be put where other paths lead too. -/
theorem mono (repeatable : Repeatable machine reads sources paths action) (listed : paths ⊆ more) :
    Repeatable machine reads sources more action := by
  intro world value after bears succeeds
  obtain ⟨puts, redone⟩ := repeatable world value after bears succeeds
  refine ⟨puts, redone.written, fun put member => ?_, redone.again⟩
  obtain ⟨path, known, walked⟩ := redone.named put member
  exact ⟨path, listed known, walked⟩

/-- Changing files can be repeated if the step that does it can. -/
theorem withTree {step : Place → ExceptT Failure (StateM Tree) α}
    (repeats : ∀ before value after, before.IsGrounded →
      before.entry? machine.here = some .directory →
        ((step machine.here).run).run before = (.ok value, after) →
          ∃ puts, Repeats (step machine.here) value before puts after ∧
            ∀ put ∈ puts, ∃ path ∈ paths, ∃ entry,
              walk after machine.here true path.toString = .ok ⟨put.1, entry⟩) :
    Repeatable machine reads sources paths (Action.withTree step) := by
  intro world value after bears succeeds
  obtain ⟨puts, redone, named⟩ := repeats world.tree value after.tree bears.grounded bears.directory
    (run_of_perform_withTree succeeds)
  refine ⟨puts, redone.written, named, fun _ later grows _ => ?_⟩
  rw [perform_withTree, redone.again later.tree grows]
  exact ⟨_, rfl, rfl⟩

/-- Changing files by a step that the file system may refuse can be repeated if the step can. -/
theorem file {step : Place → Filing α}
    (repeats : ∀ before value after, before.IsGrounded →
      before.entry? machine.here = some .directory →
        ((step machine.here).run).run before = (.ok value, after) →
          ∃ puts, Repeats (step machine.here) value before puts after ∧
            ∀ put ∈ puts, ∃ path ∈ paths, ∃ entry,
              walk after machine.here true path.toString = .ok ⟨put.1, entry⟩) :
    Repeatable machine reads sources paths (Action.file step) := by
  refine .withTree fun before value after grounded here done => ?_
  obtain ⟨puts, redone, named⟩ :=
    repeats before value after grounded here (run_file_eq_ok_iff.mp done)
  exact ⟨puts, redone.congr fun _ _ => run_file_eq_ok_iff.mpr, named⟩

/-- Making the directories of a path can be repeated. -/
theorem makeDirectories (path : Path) :
    Repeatable machine reads sources [] (Action.file fun here => Files.makeDirectories here path) :=
  .file fun _ _ _ grounded here done =>
    ⟨[], repeats_makeDirectories grounded here done, fun _ member => absurd member List.not_mem_nil⟩

/-- Writing a file can be repeated. -/
theorem writeBytes (path : Path) (content : List UInt8) :
    Repeatable machine reads sources [path]
      (Action.file fun here => Files.writeBytes here path.toString content) := by
  refine .file fun before value after grounded here done => ?_
  obtain ⟨put, redone, -, walked⟩ := exists_repeats_writeBytes grounded here done
  refine ⟨[put], redone, fun other member => ?_⟩
  rw [List.mem_singleton.mp member]
  exact ⟨path, List.mem_singleton_self path, _, walked⟩

/-- Writing a generated test can be repeated. -/
theorem writeArtifact (result : FragmentResult) (header : String) (suite : Option String)
    (target : Path) :
    Repeatable machine reads sources [target] (Artifact.write result header suite target) := by
  have wrote : Repeatable machine reads sources [target]
      (Action.withTree (Artifact.writeFile target (Artifact.render result header suite))) := by
    refine .withTree fun before value after grounded here done => ?_
    have both := Artifact.run_writeFile_eq_ok_iff.mp done
    rw [run_bind] at both
    split at both
    next _ between made =>
      have first := repeats_makeDirectories grounded here made
      obtain ⟨put, second, -, walked⟩ := exists_repeats_writeBytes
        (first.written.isGrounded grounded) (first.written.grows.directory here) both
      refine ⟨[put], (first.bind second).congr fun _ _ => Artifact.run_writeFile_eq_ok_iff.mpr,
        fun other member => ?_⟩
      rw [List.mem_singleton.mp member]
      exact ⟨target, List.mem_singleton_self target, _, walked⟩
    · cases both
  exact wrote.bind fun _ => (note _ _).bind fun _ => pure _

end Repeatable

end Action

/-! ## Compiling -/

/-- How a compiler reacts to its arguments and a source. -/
structure Reaction where
  /-- What it writes to the file that lists headers, if anything. -/
  depfile : Option (List UInt8)
  /-- What it writes to the object file, if anything. -/
  placeholder : Option (List UInt8)
  /-- What it gives. -/
  outcome : Except Failure CompileOutput

/-- Read the file that a path leads to, if there is one. -/
def readSource (path : Path) : Action (Except Trouble (List UInt8)) := do
  let surroundings ← Action.surroundings
  return readBytes surroundings.tree surroundings.here path.toString

/-- Write a file if there is anything to write. -/
def writeGiven (path : Path) : Option (List UInt8) → Action Unit
  | none => return
  | some content => Action.file fun here => writeBytes here path.toString content

/-- React to the arguments and the source of a job, and write no other files than those of the job. -/
def reactTo (settings : CompilerSettings)
    (react : List String → Except Trouble (List UInt8) → Reaction) (job : Job) :
    Action CompileOutput := do
  let source ← readSource job.fragment.path
  let reaction := react (Job.arguments settings job) source
  writeGiven job.depfile reaction.depfile
  writeGiven job.placeholder reaction.placeholder
  liftM reaction.outcome

/-- Compile a job by a compiler that goes by its arguments and the source only. -/
def compileReacting (settings : CompilerSettings)
    (react : List String → Except Trouble (List UInt8) → Reaction) (job : Job) :
    Action CompileOutput := do
  Action.file fun here => makeDirectories here job.directory
  reactTo settings react job

namespace Action.Repeatable

variable {settings : Settings} {options : RunOptions} {find : Action Unit}
variable {compile : Job → Action CompileOutput} {jobs : List Job}

/-- Reading a file that lies where nothing is written can be repeated. -/
theorem readSource {path : Path} (member : path ∈ sources) :
    Repeatable machine reads sources [] (NegativeCompile.readSource path) := by
  intro world value after bears succeeds
  cases succeeds
  refine ⟨[], .done _, fun put listed => absurd listed List.not_mem_nil, fun _ later grows same => ?_⟩
  obtain ⟨place, entry, read, walked⟩ := bears.leads path member
  refine ⟨later, ?_, rfl⟩
  have bytes := readBytes_congr (status_eq_of_grows grows walked (same place read))
  rw [NegativeCompile.readSource, perform_bind_of_ok perform_surroundings, bytes]
  rfl

/-- Writing a file if there is anything to write can be repeated. -/
theorem writeGiven (path : Path) (content : Option (List UInt8)) :
    Repeatable machine reads sources [path] (NegativeCompile.writeGiven path content) := by
  cases content with
  | none => exact (pure ()).mono (List.nil_subset _)
  | some content => exact writeBytes path content

/-- Reacting to the arguments and the source of a job can be repeated. -/
theorem reactTo (settings : CompilerSettings)
    (react : List String → Except Trouble (List UInt8) → Reaction) {job : Job}
    (member : job.fragment.path ∈ sources) :
    Repeatable machine reads sources job.files (NegativeCompile.reactTo settings react job) :=
  (readSource member).bind fun _ => (writeGiven job.depfile _).bind fun _ =>
    (writeGiven job.placeholder _).bind fun _ => lift _

/-- Compiling a job can be repeated if the compiler goes by its arguments and the source only. -/
theorem compileReacting (settings : CompilerSettings)
    (react : List String → Except Trouble (List UInt8) → Reaction) {job : Job}
    (member : job.fragment.path ∈ sources) :
    Repeatable machine reads sources job.files (NegativeCompile.compileReacting settings react job) :=
  (makeDirectories job.directory).bind fun _ => reactTo settings react member

/-- Compiling jobs one after another can be repeated if compiling each can. -/
theorem compileFrom (each : ∀ job ∈ jobs, Repeatable machine reads sources job.files (compile job))
    (serial : Nat) : Repeatable machine reads sources (jobs.flatMap Job.files)
      (NegativeCompile.compileFrom compile serial jobs) := by
  induction jobs generalizing serial with
  | nil => exact pure []
  | cons job rest ih =>
    obtain ⟨first, others⟩ := List.forall_mem_cons.mp each
    have whole := first.bind fun output => (ih others (serial + 1)).bind fun compiled =>
      pure ((job.identity, ⟨serial, output⟩) :: compiled)
    rw [List.append_nil] at whole
    exact whole

/-- Compiling jobs by some workers can be repeated if compiling each can. -/
theorem compileJobs (each : ∀ job ∈ jobs, Repeatable machine reads sources job.files (compile job))
    (workers : Int) : Repeatable machine reads sources (jobs.flatMap Job.files)
      (NegativeCompile.compileJobs compile workers jobs) := by
  intro world compiled after bears succeeds
  obtain ⟨errors, both⟩ := compileJobs_eq_ok_iff compile workers jobs machine world
  obtain ⟨busy, done⟩ := (both compiled after).mp succeeds
  obtain ⟨puts, redone⟩ := compileFrom each 0 (world.withErrors errors) compiled after bears done
  refine ⟨puts, redone.written, redone.named, fun apart later grows unread => ?_⟩
  obtain ⟨others, again⟩ := compileJobs_eq_ok_iff compile workers jobs machine later
  obtain ⟨last, performed, put⟩ := redone.again apart (later.withErrors others) grows unread
  exact ⟨last, (again compiled last).mpr ⟨busy, performed⟩, put⟩

/-- Compiling the planned jobs can be repeated if looking for the compiler and compiling each can. -/
theorem compilePlanned (search : Repeatable machine reads sources [] find)
    (each : ∀ job ∈ jobs, Repeatable machine reads sources job.files (compile job)) :
    Repeatable machine reads sources (jobs.flatMap Job.files)
      (NegativeCompile.compilePlanned settings options find compile jobs) := by
  rw [NegativeCompile.compilePlanned]
  split
  · exact (pure []).mono (List.nil_subset _)
  · exact search.bind fun _ => compileJobs each _

/-! ## Writing generated tests -/

/-- Writing the generated tests of fragments can be repeated. -/
theorem writeArtifacts (results : List FragmentResult) :
    Repeatable machine reads sources
      (results.map (Artifact.targetOf · settings.outputDir))
      (NegativeCompile.writeArtifacts settings results) := by
  induction results with
  | nil => exact pure []
  | cons result rest ih =>
    have whole := (writeArtifact result settings.artifact.header settings.artifact.suite
      (Artifact.targetOf result settings.outputDir)).bind fun written =>
        (ih.bind fun others => pure (written :: others))
    rw [List.append_nil] at whole
    exact whole

end Action.Repeatable

end NegativeCompile
