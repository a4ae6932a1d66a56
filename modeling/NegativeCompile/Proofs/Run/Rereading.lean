import Mathlib
import NegativeCompile.Proofs.Files.Ascending
import NegativeCompile.Proofs.Artifact.Clearing
import NegativeCompile.Proofs.Run.Repeating

/-! # What a run does again

What the parts of a run do in the tree that an earlier run leaves. Fragments are read as before if their
paths are resolved as before and lead to the same (`loadedFrom_congr`). Once anything was compiled there
is a directory of the output, so that generated tests only fill the tree (`eq_nil_or_fills`); and in a
tree that was filled fragments are judged as before (`judgeAll_of_fills`). -/

namespace NegativeCompile

open Files

variable {machine : Machine} {world after : World} {reads : Place → Prop} {sources : List Path}
variable {before last tree : Tree} {here : Place} {registry : Registry} {base path : Path}
variable {paths : List Path} {known : List (String × Path)} {settings : Settings}
variable {options : RunOptions} {react : List String → Except Trouble (List UInt8) → Reaction}
variable {job : Job} {jobs : List Job} {find : Action Unit}

/-! ## Reading again -/

/-- A path leads to the same in a tree that has grown if nothing was put where it led to something and
it still leads nowhere if it led nowhere. -/
theorem status_eq_of_unwritten {text : String} (grows : before.Grows last)
    (grounded : before.IsGrounded) (directory : before.entry? here = some .directory)
    (nowhere : status before here text = .error .missing → status last here text = .error .missing)
    (unwritten : ∀ place entry, walk before here true text = .ok ⟨place, some entry⟩ →
      last.entry? place = before.entry? place) :
    status last here text = status before here text := by
  cases found : status before here text with
  | ok entry =>
    obtain ⟨place, walked⟩ := status_eq_ok_iff.mp found
    rw [status_eq_of_grows grows walked (unwritten place entry walked), found]
  | error fault =>
    by_cases absent : fault = .missing
    · subst absent
      exact nowhere found
    · refine grows.status_error found absent fun _ => ⟨grounded, ?_⟩
      rw [directory]
      exact Option.some_ne_none _

/-- A fragment is read as before if its path leads to the same. -/
theorem Fragment.load_congr (same : status last here path.toString = status before here path.toString) :
    load registry last here path = load registry before here path := by
  rw [load, readText, readBytes_congr same, load, readText]

/-- A path leads to the same if it is resolved as before. -/
theorem Surroundings.resolve_congr
    (same : Files.resolve last here path = Files.resolve before here path) :
    resolve ⟨last, here⟩ path = resolve ⟨before, here⟩ path := by
  simp only [resolve, same]

/-- Fragments are read as before if their paths and the base directory are resolved as before and lead
to the same. -/
theorem loadedFrom_congr (root : Files.resolve last here base = Files.resolve before here base)
    (keys : ∀ path ∈ paths, Files.resolve last here path = Files.resolve before here path)
    (same : ∀ path ∈ paths, status last here path.toString = status before here path.toString) :
    loadedFrom registry ⟨last, here⟩ base known paths =
      loadedFrom registry ⟨before, here⟩ base known paths := by
  induction paths generalizing known with
  | nil => rfl
  | cons path rest ih =>
    obtain ⟨own, others⟩ := List.forall_mem_cons.mp keys
    obtain ⟨one, further⟩ := List.forall_mem_cons.mp same
    rw [loadedFrom, loadedFrom, Surroundings.fragmentKey_congr (Surroundings.resolve_congr own)
      (Surroundings.resolve_congr root)]
    simp only [Fragment.load_congr one, ih others further]

/-! ## The directory of the output -/

/-- When a job has been compiled there is a directory for its files. -/
theorem directory_of_compileReacting {compiler : CompilerSettings} {output : CompileOutput}
    (bears : Bears machine.here reads sources world.tree) (member : job.fragment.path ∈ sources)
    (succeeds : (compileReacting compiler react job).perform machine world = (.ok output, after)) :
    status after.tree machine.here job.directory.toString = .ok .directory := by
  obtain ⟨_, between, made, reacted⟩ := Action.perform_bind_eq_ok_iff.mp succeeds
  have done := run_file_eq_ok_iff.mp (Action.run_of_perform_withTree made)
  have isMade := isMade_of_makeDirectories bears.grounded bears.directory done
  obtain ⟨puts, redone⟩ := Action.Repeatable.reactTo compiler react member _ output after
    (bears.of_written isMade.written) reacted
  obtain ⟨still, there, same⟩ := redone.written.grows.status_ok isMade.directory
  rw [there, Entry.eq_directory_of_frame same]

/-- When jobs have been compiled there is a directory for the files of each. -/
theorem directory_of_compileFrom {compiler : CompilerSettings} {serial : Nat}
    {compiled : CompiledJobs} (bears : Bears machine.here reads sources world.tree)
    (listed : ∀ job ∈ jobs, job.fragment.path ∈ sources) 
    (succeeds : (compileFrom (compileReacting compiler react) serial jobs).perform machine world =
      (.ok compiled, after)) (member : job ∈ jobs) :
    status after.tree machine.here job.directory.toString = .ok .directory := by
  induction jobs generalizing serial compiled world with
  | nil => cases member
  | cons first rest ih =>
    obtain ⟨own, others⟩ := List.forall_mem_cons.mp listed
    obtain ⟨output, between, one, more⟩ := Action.perform_bind_eq_ok_iff.mp succeeds
    obtain ⟨compiledRest, final, done, equal⟩ := Action.perform_bind_eq_ok_iff.mp more
    cases equal
    obtain ⟨_, redone⟩ := Action.Repeatable.compileReacting compiler react own world output between
      bears one
    have carried := bears.of_written redone.written
    rcases List.mem_cons.mp member with rfl | later
    · have directory := directory_of_compileReacting bears own one
      obtain ⟨_, redoneRest⟩ := Action.Repeatable.compileFrom
        (fun job listed => .compileReacting compiler react (others job listed)) (serial + 1) between
          compiledRest after carried done
      obtain ⟨still, there, same⟩ := redoneRest.written.grows.status_ok directory
      rw [there, Entry.eq_directory_of_frame same]
    · exact ih carried others done later

/-- When the planned jobs have been compiled there is a directory for the files of each. -/
theorem directory_of_compilePlanned {compiler : CompilerSettings} {compiled : CompiledJobs}
    (search : Action.Repeatable machine reads sources [] find)
    (bears : Bears machine.here reads sources world.tree)
    (listed : ∀ job ∈ jobs, job.fragment.path ∈ sources)
    (succeeds : (compilePlanned settings options find (compileReacting compiler react) jobs).perform
      machine world = (.ok compiled, after)) (member : job ∈ jobs) :
    status after.tree machine.here job.directory.toString = .ok .directory := by
  have needed : ¬ jobs.isEmpty = true := by
    simpa using List.ne_nil_of_mem member
  rw [compilePlanned, if_neg needed] at succeeds
  obtain ⟨found, between, searched, rest⟩ := Action.perform_bind_eq_ok_iff.mp succeeds
  obtain ⟨_, redone⟩ := search world found between bears searched
  obtain ⟨errors, both⟩ := compileJobs_eq_ok_iff (compileReacting compiler react)
    (options.jobsFor settings) jobs machine between
  have done := ((both compiled after).mp rest).2
  have carried : Bears machine.here reads sources (between.withErrors errors).tree :=
    bears.of_written redone.written
  exact directory_of_compileFrom carried listed done member

/-- A directory for the files of a job is in that of the output, or is it. -/
theorem directory_of_output {outputDir : Path} (pieces : outputDir.Each IsPiece)
    {key : String} (keyed : IsName key ∨ key = "")
    (directory : status tree here (outputDir.append key).toString = .ok .directory) :
    status tree here outputDir.toString = .ok .directory := by
  rcases keyed with named | empty
  · rw [Path.append_of_isName outputDir named] at directory
    exact status_above (pieces.concat ⟨named.counts, named.noSlash⟩) directory
  · rw [empty, Path.append_empty] at directory
    exact directory

/-- Writing a generated test only adds files if there is a directory of the output. -/
theorem fills_of_write {result written : FragmentResult} {header : String} {suite : Option String}
    {outputDir : Path} (bears : Bears machine.here reads sources world.tree)
    (keyed : IsName result.key ∨ result.key = "")
    (directory : status world.tree machine.here outputDir.toString = .ok .directory)
    (succeeds : (Artifact.write result header suite (Artifact.targetOf result outputDir)).perform
      machine world = (.ok written, after)) : world.tree.Fills after.tree := by
  obtain ⟨_, between, wrote, rest⟩ := Action.perform_bind_eq_ok_iff.mp succeeds
  obtain ⟨_, noted, note, equal⟩ := Action.perform_bind_eq_ok_iff.mp rest
  have parent : (Artifact.targetOf result outputDir).parent = outputDir := by
    rw [Artifact.targetOf_eq keyed, Path.parent, List.dropLast_concat]
  have both := Artifact.run_writeFile_eq_ok_iff.mp (Action.run_of_perform_withTree wrote)
  rw [run_bind, parent] at both
  split at both
  next _ tree made =>
    cases eq_of_makeDirectories bears.grounded bears.directory directory made
    obtain ⟨-, -, fills, -⟩ := exists_repeats_writeBytes bears.grounded bears.directory both
    have same : after.tree = between.tree := by
      cases equal
      cases note
      rfl
    rwa [same]
  · cases both

/-- Writing generated tests only adds files if there is a directory of the output. -/
theorem fills_of_writeArtifacts {results written : List FragmentResult}
    (bears : Bears machine.here reads sources world.tree)
    (keyed : ∀ result ∈ results, IsName result.key ∨ result.key = "")
    (directory : status world.tree machine.here settings.outputDir.toString = .ok .directory)
    (succeeds : (writeArtifacts settings results).perform machine world = (.ok written, after)) :
    world.tree.Fills after.tree := by
  induction results generalizing written world with
  | nil =>
    cases succeeds
    exact .refl _
  | cons result rest ih =>
    obtain ⟨own, others⟩ := List.forall_mem_cons.mp keyed
    obtain ⟨one, between, wrote, more⟩ := Action.perform_bind_eq_ok_iff.mp succeeds
    obtain ⟨writtenRest, final, done, equal⟩ := Action.perform_bind_eq_ok_iff.mp more
    cases equal
    have fills := fills_of_write bears own directory wrote
    obtain ⟨_, redone⟩ := Action.Repeatable.writeArtifact result _ _ _ world one between bears wrote
    obtain ⟨still, there, same⟩ := fills.status_ok directory
    rw [Entry.eq_directory_of_frame same] at there
    exact fills.trans (ih (bears.of_written redone.written) others there done)

/-- Announcing results to nobody only adds files if there is a directory of the output. -/
theorem fills_of_announce {results written : List FragmentResult}
    (bears : Bears machine.here reads sources world.tree)
    (keyed : ∀ result ∈ results, IsName result.key ∨ result.key = "")
    (directory : status world.tree machine.here settings.outputDir.toString = .ok .directory)
    (succeeds : (announce settings options Observer.silent () results).perform machine world =
      (.ok (written, ()), after)) : world.tree.Fills after.tree := by
  rw [announce, Action.perform_bind_of_ok (perform_tellAll_silent machine world _ 1 results)] at succeeds
  obtain ⟨found, between, wrote, equal⟩ := Action.perform_bind_eq_ok_iff.mp succeeds
  cases equal
  rw [writeRequested] at wrote
  split at wrote
  · exact fills_of_writeArtifacts bears keyed directory wrote
  · cases wrote
    exact .refl _

/-! ## What a run writes -/

/-- The paths at which a run with some results writes files: those of the planned jobs, and those of
the generated tests if results are turned into tests. -/
def writtenPaths (settings : Settings) (options : RunOptions) (results : List FragmentResult) :
    List Path :=
  (plannedJobs settings options results).flatMap Job.files ++
    if options.writesArtifacts settings then
      results.map (Artifact.targetOf · settings.outputDir)
    else []

/-- Two results are about one fragment. -/
structure FragmentResult.Alike (item result : FragmentResult) : Prop where
  /-- The same fragment was read. -/
  fragment_eq : result.fragment = item.fragment
  /-- It has the same key. -/
  key_eq : result.key = item.key

variable {items results : List FragmentResult}

/-- The planned jobs depend on the fragments and their keys only. -/
theorem plannedJobs_congr (alike : List.Forall₂ FragmentResult.Alike items results) :
    plannedJobs settings options results = plannedJobs settings options items := by
  rw [plannedJobs, plannedJobs]
  induction alike with
  | nil => rfl
  | cons head _ ih =>
    rw [List.flatMap_cons, List.flatMap_cons, ih, RunOptions.jobsOf, head.fragment_eq, head.key_eq]
    rfl

/-- What is collected for fragments is about them. -/
theorem alike_of_judgeAll {surroundings : Surroundings} {workdir : Option Path}
    {compiled : CompiledJobs}
    (judged : judgeAll surroundings options workdir compiled items = .ok results) :
    List.Forall₂ FragmentResult.Alike items results := by
  refine (Except.mapM_eq_ok_iff.mp judged).imp fun item result collected => ?_
  unfold collect at collected
  split at collected
  · cases collected
    exact ⟨rfl, rfl⟩
  · obtain ⟨_, -, rest⟩ := Except.bind_eq_ok_iff.mp collected
    obtain ⟨_, -, equal⟩ := Except.bind_eq_ok_iff.mp rest
    cases equal
    exact ⟨rfl, rfl⟩

/-- What is returned is about the fragments that were judged. -/
theorem alike_returned :
    List.Forall₂ FragmentResult.Alike results (returned settings options results) := by
  rw [returned]
  split
  · rw [List.forall₂_map_right_iff, List.forall₂_same]
    exact fun _ _ => ⟨rfl, rfl⟩
  · rw [List.forall₂_same]
    exact fun _ _ => ⟨rfl, rfl⟩

/-- The files that a run writes, once it has judged the fragments that it read. -/
theorem writtenPaths_returned (alike : List.Forall₂ FragmentResult.Alike items results) :
    writtenPaths settings options (returned settings options results) =
      (plannedJobs settings options items).flatMap Job.files ++
        if options.writesArtifacts settings then
          results.map (Artifact.targetOf · settings.outputDir)
        else [] := by
  rw [writtenPaths, plannedJobs_congr alike_returned, plannedJobs_congr alike, returned]
  split
  · rw [List.map_map]
    rfl
  · rfl

/-- Announcing results to nobody can be repeated. -/
theorem Action.Repeatable.announce (results : List FragmentResult) :
    Action.Repeatable machine reads sources
      (if options.writesArtifacts settings then
        results.map (Artifact.targetOf · settings.outputDir) else [])
      (NegativeCompile.announce settings options Observer.silent () results) := by
  have told : Action.Repeatable machine reads sources []
      (tellAll Observer.silent results.length () 1 results) :=
    .of_constant () fun world => ⟨world, perform_tellAll_silent machine world _ 1 results, rfl⟩
  have wrote : Action.Repeatable machine reads sources
      (if options.writesArtifacts settings then
        results.map (Artifact.targetOf · settings.outputDir) else [])
      (writeRequested settings options results) := by
    rw [writeRequested]
    split
    · exact .writeArtifacts results
    · exact .pure results
  have whole := told.bind fun last => wrote.bind fun written => .pure (written, last)
  rw [List.append_nil] at whole
  exact whole

/-! ## Judging again -/

/-- If nothing was compiled no files are looked at. -/
theorem judgeAll_of_nothing (surroundings other : Surroundings) (options : RunOptions)
    (workdir : Option Path) (items : List FragmentResult) :
    judgeAll surroundings options workdir [] items = judgeAll other options workdir [] items := by
  have same : collect surroundings options workdir [] = collect other options workdir [] := by
    funext item
    simp only [collect, judgeFragment, List.lookup_nil]
  rw [judgeAll, judgeAll, same]

/-- Fragments are judged as before in a tree that was filled. -/
theorem judgeAll_of_fills (fills : before.Fills last) (options : RunOptions)
    (workdir : Option Path) (compiled : CompiledJobs) (items : List FragmentResult) :
    judgeAll ⟨last, here⟩ options workdir compiled items =
      judgeAll ⟨before, here⟩ options workdir compiled items := by
  refine judgeAll_congr ?_
  funext path
  simp only [Surroundings.resolve, fills.resolve_eq]

/-- If anything was compiled, announcing results to nobody only adds files, since there is a directory
of the output by then. -/
theorem eq_nil_or_fills {compiler : CompilerSettings} {compiled : CompiledJobs} {ready : World}
    {written : List FragmentResult} (search : Action.Repeatable machine reads sources [] find)
    (bears : Bears machine.here reads sources world.tree)
    (listed : ∀ job ∈ jobs, job.fragment.path ∈ sources)
    (pieces : settings.outputDir.Each IsPiece)
    (placed : ∀ job ∈ jobs, ∃ key, job.directory = settings.outputDir.append key ∧
      (IsName key ∨ key = ""))
    (keyed : ∀ result ∈ results, IsName result.key ∨ result.key = "")
    (compiles : (compilePlanned settings options find (compileReacting compiler react) jobs).perform
      machine world = (.ok compiled, ready))
    (announced : (announce settings options Observer.silent () results).perform machine ready =
      (.ok (written, ()), after)) : compiled = [] ∨ ready.tree.Fills after.tree := by
  cases jobs with
  | nil =>
    cases compiles
    exact .inl rfl
  | cons job rest =>
    obtain ⟨puts, redone⟩ := Action.Repeatable.compilePlanned search
      (fun job planned => .compileReacting compiler react (listed job planned)) world compiled ready
        bears compiles
    have made := directory_of_compilePlanned search bears listed compiles List.mem_cons_self
    obtain ⟨key, place, named⟩ := placed job List.mem_cons_self
    rw [place] at made
    exact .inr (fills_of_announce (bears.of_written redone.written) keyed
      (directory_of_output pieces named made) announced)

end NegativeCompile
