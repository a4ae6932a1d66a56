import Mathlib
import NegativeCompile.Proofs.Run.Isolating
import NegativeCompile.Proofs.Run.Rereading
import NegativeCompile.Proofs.Artifact.Vouching

/-! # Running again

A run that is repeated gives the same results and leaves the files as the first run left them
(`run_repeats`), if the first run writes no fragment and makes none appear. A fragment that was missing
before the first run may lie where that run makes a directory, and then the runs differ
(`run_differs`). -/

namespace NegativeCompile

open Files

section

variable {machine : Machine} {world after : World} {reads : Place → Prop} {sources : List Path}
variable {before last : Tree} {here : Place} {registry : Registry} {base path : Path}
variable {paths : List Path} {known : List (String × Path)} {settings : Settings}
variable {options : RunOptions} {react : List String → Except Trouble (List UInt8) → Reaction}
variable {jobs : List Job} {find : Action Unit} {items results : List FragmentResult}

/-! ## Fragments that are left alone -/

/-- Files and paths as there can be. -/
structure WellFormed (machine : Machine) (tree : Files.Tree) (paths : List Path) : Prop where
  /-- Whatever lies in the tree lies in directories. -/
  grounded : tree.IsGrounded
  /-- The current directory is one. -/
  directory : tree.entry? machine.here = some .directory
  /-- It is given by its names. -/
  names : ∀ name ∈ machine.here, isPart name = true
  /-- The parts of paths are not cut by slashes. -/
  pieces : ∀ path ∈ paths, path.Each IsPiece

/-- The paths of fragments lead to the files that they led to before something was written. -/
structure LeavesFragments (here : Place) (before after : Files.Tree) (base : Path)
    (paths written : List Path) : Prop where
  /-- What was missing is still missing. -/
  nowhere : ∀ path ∈ paths, status before here path.toString = .error .missing →
    status after here path.toString = .error .missing
  /-- What is written is no fragment. -/
  apart : ∀ path ∈ paths, ∀ file ∈ written, ∀ arrival,
    walk after here true path.toString = .ok arrival →
      walk after here true file.toString ≠ .ok arrival
  /-- No path goes round in a circle of links. -/
  uncircled : ∀ path ∈ base :: paths, ∀ text, Files.resolve after here path ≠ .error (.linkLoop text)

/-- A place at which a fragment lies. -/
def LiesAt (tree : Files.Tree) (here : Place) (paths : List Path) (place : Place) : Prop :=
  ∃ path ∈ paths, ∃ entry, walk tree here true path.toString = .ok ⟨place, some entry⟩

/-- A fragment that could be read lies somewhere. -/
theorem Fragment.exists_walk_of_load {fragment : Fragment}
    (loaded : load registry tree here path = .ok fragment) :
    ∃ place entry, walk tree here true path.toString = .ok ⟨place, some entry⟩ := by
  obtain ⟨text, read, -⟩ := Except.bind_eq_ok_iff.mp loaded
  cases found : status tree here path.toString with
  | ok entry =>
    obtain ⟨place, walked⟩ := status_eq_ok_iff.mp found
    exact ⟨place, entry, walked⟩
  | error fault =>
    rw [readText, readBytes, found] at read
    split at read
    · cases read
    · cases read
    next bytes refused => split at refused <;> cases refused

/-- The fragments of planned jobs lie where they were read. -/
theorem bears_of_reads (place : Surroundings) (grounded : place.tree.IsGrounded)
    (directory : place.tree.entry? place.here = some .directory)
    (reads : List.Forall₂ (ReadAs registry place base) paths items) :
    Bears place.here (LiesAt place.tree place.here paths)
      ((plannedJobs settings options items).map (·.fragment.path)) place.tree where
  grounded := grounded
  directory := directory
  present := by
    rintro spot ⟨path, -, entry, walked⟩
    rw [← entry_of_walk walked]
    exact Option.some_ne_none _
  leads := by
    intro path listed
    obtain ⟨job, planned, rfl⟩ := List.mem_map.mp listed
    obtain ⟨item, member, fragment, holds, testCase, chosen, rfl⟩ := mem_plannedJobs.mp planned
    obtain ⟨path, given, read⟩ := reads.exists_of_mem_right member
    have loaded := read.load_eq_ok holds
    obtain ⟨spot, entry, walked⟩ := Fragment.exists_walk_of_load loaded
    refine ⟨spot, entry, ⟨path, given, entry, walked⟩, ?_⟩
    change walk place.tree place.here true fragment.path.toString = _
    rw [(Fragment.exists_parse_of_load loaded).1, walked]

/-- Nothing is put where a fragment lies. -/
theorem LeavesFragments.not_liesAt {written : List Path} {puts : List (Place × Entry)}
    (leaves : LeavesFragments here before last base paths written) (grows : before.Grows last)
    (named : ∀ put ∈ puts, ∃ path ∈ written, ∃ entry,
      walk last here true path.toString = .ok ⟨put.1, entry⟩) :
    ∀ put ∈ puts, ¬ LiesAt before here paths put.1 := by
  rintro put member ⟨path, listed, entry, walked⟩
  obtain ⟨file, known, other, there⟩ := named put member
  have lies : other = last.entry? put.1 := entry_of_walk there
  refine leaves.apart path listed file known _ (grows.walk_ok walked) ?_
  rw [there, lies]

/-- Fragments are read as before if what was written is no fragment. -/
theorem LeavesFragments.loadedFrom_eq {written : List Path} {puts : List (Place × Entry)}
    (leaves : LeavesFragments here before last base paths written)
    (changed : before.Written puts last)
    (apart : ∀ put ∈ puts, ¬ LiesAt before here paths put.1) (grounded : before.IsGrounded)
    (directory : before.entry? here = some .directory)
    (pieces : ∀ path ∈ base :: paths, path.Each IsPiece) :
    loadedFrom registry ⟨last, here⟩ base known paths =
      loadedFrom registry ⟨before, here⟩ base known paths := by
  have keys : ∀ path ∈ base :: paths, Files.resolve last here path = Files.resolve before here path :=
    fun path listed => changed.grows.resolve_eq grounded directory (pieces path listed)
      (leaves.uncircled path listed)
  obtain ⟨root, others⟩ := List.forall_mem_cons.mp keys
  refine loadedFrom_congr root others fun path listed => ?_
  refine status_eq_of_unwritten changed.grows grounded directory (leaves.nowhere path listed) ?_
  intro place entry walked
  refine changed.entry?_eq ?_ ?_
  · rw [← entry_of_walk walked]
    exact Option.some_ne_none _
  · rintro put member rfl
    exact apart put member ⟨path, listed, entry, walked⟩

/-! ## Doing it again -/

/-- What a run does once it has read fragments can be done again in the tree that it leaves: the same jobs
are compiled, the fragments are judged alike, and the same generated tests are written. In the end each
file holds what it held. -/
theorem exists_finish_again {compiler : CompilerSettings} {compiled : CompiledJobs} {ready : World}
    {written : List FragmentResult} (search : Action.Repeatable machine reads sources [] find)
    (bears : Bears machine.here reads sources world.tree)
    (listed : ∀ job ∈ jobs, job.fragment.path ∈ sources)
    (compiles : (compilePlanned settings options find (compileReacting compiler react) jobs).perform
      machine world = (.ok compiled, ready))
    (fills : compiled = [] ∨ ready.tree.Fills after.tree)
    (judged : judgeAll ⟨ready.tree, machine.here⟩ options settings.compiler.workdir compiled items =
      .ok results)
    (announced : (announce settings options Observer.silent () results).perform machine ready =
      (.ok (written, ()), after)) :
    ∃ puts, world.tree.Written puts after.tree ∧
      (∀ put ∈ puts, ∃ path ∈ jobs.flatMap Job.files ++
          if options.writesArtifacts settings then
            results.map (Artifact.targetOf · settings.outputDir)
          else [],
        ∃ entry, walk after.tree machine.here true path.toString = .ok ⟨put.1, entry⟩) ∧
      ((∀ put ∈ puts, ¬ reads put.1) → ∀ later : World, later.tree = after.tree →
        ∃ between last,
          (compilePlanned settings options find (compileReacting compiler react) jobs).perform
              machine later = (.ok compiled, between) ∧
            judgeAll ⟨between.tree, machine.here⟩ options settings.compiler.workdir compiled items =
              .ok results ∧
            (announce settings options Observer.silent () results).perform machine between =
              (.ok (written, ()), last) ∧
            last.tree = after.tree) := by
  obtain ⟨puts, redone⟩ := Action.Repeatable.compilePlanned search
    (fun job planned => .compileReacting compiler react (listed job planned)) world compiled ready
      bears compiles
  have carried := bears.of_written redone.written
  obtain ⟨others, retold⟩ :=
    Action.Repeatable.announce results ready (written, ()) after carried announced
  have changed := redone.written.trans retold.written
  refine ⟨puts ++ others, changed, fun put member => ?_, fun apart later same => ?_⟩
  · rcases List.mem_append.mp member with early | late
    · obtain ⟨path, known, entry, walked⟩ := redone.named put early
      exact ⟨path, List.mem_append_left _ known, _, retold.written.grows.walk_ok walked⟩
    · obtain ⟨path, known, walked⟩ := retold.named put late
      exact ⟨path, List.mem_append_right _ known, walked⟩
  · have unread {place : Place} (read : reads place) : ∀ put ∈ puts ++ others, put.1 ≠ place := by
      rintro put member rfl
      exact apart put member read
    obtain ⟨apartPuts, apartOthers⟩ := List.forall_mem_append.mp apart
    -- The jobs are compiled again, which only fills the tree.
    obtain ⟨between, compilesAgain, put⟩ := redone.again apartPuts later
      (by rw [same]; exact retold.written.grows) fun place read => by
        rw [same]
        exact changed.entry?_eq (bears.present place read) (unread read)
    rw [same] at put
    have takes : after.tree.TakesFiles puts :=
      redone.written.takesFiles.of_grows retold.written.grows
    have judgedAgain : judgeAll ⟨between.tree, machine.here⟩ options settings.compiler.workdir
        compiled items = .ok results := by
      rw [← judged, put]
      rcases fills with rfl | fills
      · exact judgeAll_of_nothing _ _ options _ items
      · exact judgeAll_of_fills (fills.trans takes.fills) options _ compiled items
    obtain ⟨last, announcedAgain, putOthers⟩ := retold.again apartOthers between
      (put ▸ takes.fills.toGrows) fun place read => by
        have elsewhere := List.forall_mem_append.mp (unread read)
        rw [put, takes.entry?_put elsewhere.1]
        exact retold.written.entry?_eq (carried.present place read) elsewhere.2
    refine ⟨between, last, compilesAgain, judgedAgain, announcedAgain, ?_⟩
    rw [putOthers, put, ← Tree.put_append, changed.put_eq_self]

end

/-! ## The sample -/

namespace Sample

/-- What a compiler gives that has nothing to say. -/
def quiet : CompileOutput := ⟨["cc"], some 0, "", .zero, [], false, false⟩

/-- A compiler that has nothing to say, and lists no headers. -/
def react (_ : List String) (_ : Except Trouble (List UInt8)) : Reaction := ⟨some [], none, .ok quiet⟩

/-- The tree with the directory of the sample's job. -/
def madeTree : Tree := ⟨tree.entries ++ [(["out"], .directory), (["out", "a.nc"], .directory)]⟩

/-- The file that lists headers. -/
def headers : Path := .ofParts ["out", "a.nc", "fragment.d"]

/-- The object file. -/
def object : Path := .ofParts ["out", "a.nc", "fragment.o"]

/-- The tree once the sample has been compiled. -/
def compiledTree : Tree := ⟨madeTree.entries ++ [(headers.parts, .file [] false)]⟩

/-- The result of the sample if its code compiles. -/
def quietResult : FragmentResult :=
  { item with cases := fragment.cases.map fun testCase =>
      .ofVerdict (.plain testCase .unexpectedSuccess) ⟨0, quiet⟩ }

/-- The tree once the generated test of the sample has been written. -/
def finalTree : Tree :=
  ⟨compiledTree.entries ++
    [(target.parts, .file (Text.encodeUtf8 (Artifact.textOf settings quietResult)) false)]⟩

/-- Some names below the root make a plain path. -/
theorem isPlain_ofParts {parts : List String}
    (names : ∀ part ∈ parts, part.toList ∉ dotTexts ∧ '/' ∉ part.toList ∧ '\x00' ∉ part.toList) :
    (Path.ofParts parts).IsPlain :=
  ⟨rfl, fun part member => isName_iff.mpr (names part member)⟩

theorem isPlain_headers : headers.IsPlain := isPlain_ofParts (by decide)

/-- Making the directory of the job makes the directory of the output as well. -/
theorem run_makeDirectories_job :
    ((makeDirectories [] job.directory).run).run tree = (.ok (), madeTree) := by
  have place : job.directory = .ofParts ["out", "a.nc"] := by decide
  rw [place]
  unfold madeTree tree
  generalize Text.encodeUtf8 Sample.text = bytes
  cbv

theorem run_writeBytes_headers :
    ((writeBytes [] headers.toString []).run).run madeTree = (.ok (), compiledTree) := by
  have nothing : madeTree.entry? headers.parts = none := by decide +kernel
  have above : madeTree.HasAbove headers.parts := by
    intro above starts differ
    have each : ∀ above ∈ headers.parts.inits, above ≠ headers.parts →
        madeTree.entry? above = some .directory := by
      decide +kernel
    exact each above ((List.mem_inits _ _).mpr starts) differ
  have walked : walk madeTree [] true headers.toString = .ok ⟨headers.parts, none⟩ := by
    rw [isPlain_headers.walk_eq (by decide) ⟨by decide, by decide⟩ above, nothing]
    rw [nothing]
    exact fun target => nofun
  rw [run_writeBytes, isPlain_headers.hasNull_toString, walked]
  rfl

/-- The sample is compiled. -/
theorem perform_compileReacting (compiler : CompilerSettings) {found : World}
    (files : found.tree = tree) :
    (compileReacting compiler react job).perform machine found =
      (.ok quiet, { found with tree := compiledTree }) := by
  have made : (Action.file fun here => makeDirectories here job.directory).perform machine found =
      (.ok (), { found with tree := madeTree }) := by
    refine Action.perform_file_of_ok ?_
    rw [files]
    exact run_makeDirectories_job
  have depfile : job.depfile = headers := by decide
  have wrote : (writeGiven job.depfile (some [])).perform machine { found with tree := madeTree } =
      (.ok (), { found with tree := compiledTree }) := by
    rw [depfile, writeGiven]
    exact Action.perform_file_of_ok run_writeBytes_headers
  have read (found : World) : ∃ source,
      (readSource job.fragment.path).perform machine found = (.ok source, found) := by
    rw [readSource, Action.perform_bind_of_ok Action.perform_surroundings]
    exact ⟨_, Action.perform_pure _⟩
  obtain ⟨source, read⟩ := read { found with tree := madeTree }
  rw [compileReacting, Action.perform_bind_of_ok made, reactTo, Action.perform_bind_of_ok read]
  dsimp only [react]
  rw [Action.perform_bind_of_ok wrote, writeGiven, Action.perform_bind_of_ok (Action.perform_pure ()),
    Action.perform_lift]

/-- A name in the directory of the output makes a plain path. -/
theorem isPlain_output {name : String} (named : IsName name) : (Path.ofParts ["out", name]).IsPlain := by
  have output : IsName "out" := isName_iff.mpr (by decide)
  refine ⟨rfl, fun part member => ?_⟩
  rcases List.mem_pair.mp member with rfl | rfl
  · exact output
  · exact named

theorem isPlain_outputDir : settings.outputDir.IsPlain := isPlain_ofParts (by decide)

/-- The path of the output leads to the directory that lies there. -/
theorem status_outputDir {files : Tree} (directory : files.entry? ["out"] = some .directory) :
    status files [] settings.outputDir.toString = .ok .directory := by
  have lies : files.entry? settings.outputDir.parts = some .directory := directory
  rw [isPlain_outputDir.status_eq (by decide) ⟨by decide, by decide⟩ (files.hasAbove_singleton _), lies]
  · rfl
  · rw [lies]
    exact fun target => nofun

/-- Nothing is changed if the directory of the output is there. -/
theorem run_makeDirectories_outputDir {files : Tree}
    (directory : files.entry? ["out"] = some .directory) :
    ((makeDirectories [] settings.outputDir).run).run files = (.ok (), files) :=
  makeDirectories_again isPlain_outputDir.hasNull_toString (status_outputDir directory)

/-- Any text can be written in the directory of the output once that has been made, in place of another
one or not. -/
theorem writeFile_output {files grown : Tree} {name : String} (named : IsName name)
    (short : (Path.ofParts ["out", name]).IsShort)
    (made : ((makeDirectories [] settings.outputDir).run).run files = (.ok (), grown))
    (directory : grown.entry? ["out"] = some .directory)
    (free : grown.entry? ["out", name] = none ∨
      ∃ old, grown.entry? ["out", name] = some (.file old false)) (text : String) :
    ((Artifact.writeFile (.ofParts ["out", name]) text []).run).run files =
      (.ok (), grown.set ["out", name] (.file (Text.encodeUtf8 text) false)) := by
  have plain := isPlain_output named
  have walked : walk grown [] true (Path.ofParts ["out", name]).toString =
      .ok ⟨["out", name], grown.entry? ["out", name]⟩ := by
    refine plain.walk_eq (List.cons_ne_nil _ _) short (fun above starts differ => ?_) fun target link => ?_
    · change above <+: ["out"] ++ [name] at starts
      rcases List.prefix_concat_iff.mp starts with whole | upper
      · exact absurd whole differ
      · rcases List.prefix_cons_iff.mp upper with rfl | ⟨further, rfl, ends⟩
        · rfl
        · rw [List.prefix_nil.mp ends, directory]
    · change grown.entry? ["out", name] = _ at link
      rcases free with nothing | ⟨old, file⟩
      · rw [nothing] at link
        cases link
      · rw [file] at link
        cases link
  have parent : (Path.ofParts ["out", name]).parent = settings.outputDir := rfl
  refine Artifact.run_writeFile_eq_ok_iff.mpr ?_
  rw [run_bind, parent, made]
  dsimp only
  rw [run_writeBytes, plain.hasNull_toString, walked]
  rcases free with nothing | ⟨old, file⟩
  · rw [nothing]
    rfl
  · rw [file]
    rfl

/-- One result is announced to nobody if its generated test can be written. -/
theorem exists_announce (found : World) {result : FragmentResult} {final : Tree}
    (wrote : ((Artifact.writeFile (Artifact.targetOf result settings.outputDir)
      (Artifact.textOf settings result) []).run).run found.tree = (.ok (), final)) :
    ∃ after, (announce settings {} Observer.silent () [result]).perform machine found =
        (.ok ([result.withArtifact settings.outputDir], ()), after) ∧
      after.tree = final ∧ after.registry = found.registry := by
  have writes : RunOptions.writesArtifacts {} settings = true := rfl
  obtain ⟨errors, noted⟩ := Action.perform_note machine { found with tree := final } .writing
    s!"wrote {Artifact.targetOf result settings.outputDir}"
  have done : (Artifact.write result settings.artifact.header settings.artifact.suite
      (Artifact.targetOf result settings.outputDir)).perform machine found =
        (.ok (result.withArtifact settings.outputDir),
          World.withErrors { found with tree := final } errors) := by
    rw [Artifact.write, Action.perform_bind_of_ok (Action.perform_withTree_of_ok wrote),
      Action.perform_bind_of_ok noted]
    rfl
  refine ⟨World.withErrors { found with tree := final } errors, ?_, rfl, rfl⟩
  rw [announce, Action.perform_bind_of_ok (perform_tellAll_silent machine _ _ 1 _), writeRequested,
    if_pos writes, writeArtifacts]
  exact Action.perform_bind_of_ok (Action.perform_bind_of_ok done _) _

/-- A run on the sample returns, and has written a file for its job and a generated test. -/
theorem exists_runWith_reacting :
    ∃ after, (runWith settings {} (return ()) (compileReacting (RunOptions.compilerFor {} settings)
        react) [source] Observer.silent ()).perform machine world =
          (.ok (⟨[quietResult.withArtifact settings.outputDir],
            .fraction (totalDuration [(("a.nc", none), ⟨0, quiet⟩)])⟩, ()), after) ∧
      after.tree = finalTree ∧ after.registry = world.registry := by
  have chosen : RunOptions.chosenCases {} fragment ≠ [] := by decide
  have files : world.tree = tree := rfl
  obtain ⟨errors, loaded⟩ := loadFragments_settings files rfl
  obtain ⟨later, both⟩ := compileJobs_eq_ok_iff (compileReacting (RunOptions.compilerFor {} settings)
    react) (RunOptions.jobsFor {} settings) [job] machine (world.withErrors errors)
  have compiles : (compilePlanned settings {} (return ()) (compileReacting
      (RunOptions.compilerFor {} settings) react) (plannedJobs settings {} [item])).perform machine
        (world.withErrors errors) = (.ok [(("a.nc", none), ⟨0, quiet⟩)],
          { (world.withErrors errors).withErrors later with tree := compiledTree }) := by
    have needed : ¬ ([job].isEmpty = true) := Bool.false_ne_true
    rw [plannedJobs_item chosen, compilePlanned, if_neg needed,
      Action.perform_bind_of_ok (Action.perform_pure ())]
    refine (both _ _).mpr ⟨by decide, ?_⟩
    rw [compileFrom, Action.perform_bind_of_ok (perform_compileReacting _ rfl)]
    rfl
  have prepared := prepare_eq_ok_iff.mpr ⟨_, loaded, compiles⟩
  have judged : judgeAll ⟨compiledTree, []⟩ {} none [(("a.nc", none), ⟨0, quiet⟩)] [item] =
      .ok [quietResult] :=
    Except.eq_ok_of_toOption (by decide)
  have place : Artifact.targetOf quietResult settings.outputDir = target := by decide
  have text : ((Artifact.writeFile (Artifact.targetOf quietResult settings.outputDir)
      (Artifact.textOf settings quietResult) []).run).run compiledTree = (.ok (), finalTree) := by
    rw [place]
    have directory : compiledTree.entry? ["out"] = some .directory := by decide +kernel
    exact writeFile_output (isName_iff.mpr (by decide)) ⟨by decide, by decide⟩
      (run_makeDirectories_outputDir directory) directory (.inl (by decide +kernel)) _
  obtain ⟨after, announced, final, dialects⟩ := exists_announce
    { (world.withErrors errors).withErrors later with tree := compiledTree } text
  exact ⟨after, (runWith_eq_ok_iff Observer.keepsPaths_silent prepared).mpr
    ⟨_, judged, _, announced, rfl⟩, final, dialects⟩

/-- There is no link in the tree that the run leaves. -/
theorem unlinked_finalTree (place : Place) : finalTree.Unlinked place := by
  refine Tree.unlinked_of_linkless (fun entry member => ?_) place
  simp only [finalTree, compiledTree, madeTree, tree, List.cons_append, List.nil_append,
    List.mem_cons, List.not_mem_nil, or_false] at member
  rcases member with rfl | rfl | rfl | rfl | rfl <;> exact nofun

/-- Whatever lies in the tree of the sample lies in directories. -/
theorem isGrounded_tree : tree.IsGrounded := by
  intro place there
  by_cases root : place = []
  · rw [root]
    exact fun above starts differ => absurd (List.prefix_nil.mp starts) differ
  · by_cases file : place = ["a.nc"]
    · rw [file]
      exact tree.hasAbove_singleton _
    · rw [Tree.entry?, if_neg (by simpa using root), tree, Tree.lookup_cons_of_ne (Ne.symm file)] at there
      exact absurd rfl there

/-- The run writes files of the job and the generated test. -/
theorem writtenPaths_sample :
    writtenPaths settings {} [quietResult.withArtifact settings.outputDir] =
      [headers, object, target] := by
  have alike : List.Forall₂ FragmentResult.Alike [item] [quietResult.withArtifact settings.outputDir] :=
    .cons ⟨rfl, rfl⟩ .nil
  have chosen : RunOptions.chosenCases {} fragment ≠ [] := by decide
  rw [writtenPaths, plannedJobs_congr alike, plannedJobs_item chosen]
  decide

/-- The run leaves the fragment alone. -/
theorem leavesFragments_finalTree :
    LeavesFragments [] tree finalTree settings.baseDir [source] [headers, object, target] where
  nowhere := by
    intro path listed missing
    have straight : ∀ target, tree.entry? source.parts ≠ some (.link target) :=
      unlinked_tree _ _ (List.prefix_refl _)
    rw [List.mem_singleton.mp listed, isPlain_source.status_eq (by decide)
      (Path.isShort_ofParts (by decide)) (tree.hasAbove_singleton _) straight] at missing
    cases missing
  apart := by
    intro path listed file written arrival walked also
    obtain rfl := List.mem_singleton.mp listed
    have apart : ∀ file ∈ [headers, object, target], file.parts ≠ source.parts := by decide
    have plain : file.IsPlain := by
      simp only [List.mem_cons, List.not_mem_nil, or_false] at written
      rcases written with rfl | rfl | rfl <;> exact isPlain_ofParts (by decide)
    refine apart file written ?_
    rw [← plain.place_of_walk (unlinked_finalTree _) also,
      isPlain_source.place_of_walk (unlinked_finalTree _) walked]
  uncircled := by
    intro path listed text circle
    have plain : path.IsPlain := by
      rcases List.mem_pair.mp listed with rfl | rfl
      · exact Path.isPlain_root
      · exact isPlain_source
    rw [Files.resolve_eq_self plain (unlinked_finalTree _)] at circle
    cases circle

/-- The sample is well-formed. -/
theorem wellFormed_tree : WellFormed machine tree [settings.outputDir, settings.baseDir, source] where
  grounded := isGrounded_tree
  directory := rfl
  names := fun name member => absurd member List.not_mem_nil
  pieces := by
    intro path listed
    have plain : path.IsPlain := by
      simp only [List.mem_cons, List.not_mem_nil, or_false] at listed
      rcases listed with rfl | rfl | rfl <;> exact isPlain_ofParts (by decide)
    exact fun part member => ⟨(plain.names part member).counts, (plain.names part member).noSlash⟩

/-- The tree with the directory of the output. -/
def outputTree : Tree := ⟨tree.entries ++ [(["out"], .directory)]⟩

/-- The result of reading the directory of the output as if it were a fragment: the file system refuses
to. -/
def refused (fault : Fault) : FragmentResult :=
  .ofError settings.outputDir "out" (Failure.annotations settings.outputDir none
    s!"cannot read fragment: {Refusal.message ⟨fault, settings.outputDir.toString⟩}").message

/-- The tree once the generated test for that has been written. -/
def refusedTree : Tree :=
  outputTree.set ["out", "out.cc"]
    (.file (Text.encodeUtf8 (Artifact.textOf settings (refused .missing))) false)

/-- The directory of the output is read with a refusal. -/
theorem loadedFrom_outputDir {files : Tree} {fault : Fault} (unlinked : files.Unlinked ["out"])
    (unread : readBytes files [] settings.outputDir.toString =
      .error (troubleAt settings.outputDir.toString fault)) :
    loadedFrom .standard ⟨files, []⟩ settings.baseDir [] [settings.outputDir] =
      .ok [refused fault] := by
  have key : keyOfParts ["out"] = "out" := keyOfParts_singleton (by simp)
  have keyed : Surroundings.fragmentKey ⟨files, []⟩ settings.outputDir (some settings.baseDir) =
      .ok "out" :=
    (fragmentKey_ofParts isPlain_outputDir unlinked).trans (congrArg Except.ok key)
  rw [loadedFrom, keyed, Fragment.load, Fragment.readText, unread]
  rfl

/-- A run on the directory of the output returns if it can be read as a fragment only with a refusal. -/
theorem exists_runWith_outputDir (compile : Job → Action CompileOutput) {found : World}
    {fault : Fault} {final : Tree} (dialects : found.registry = .standard)
    (loads : loadedFrom .standard ⟨found.tree, []⟩ settings.baseDir [] [settings.outputDir] =
      .ok [refused fault])
    (wrote : ((Artifact.writeFile (Artifact.targetOf (refused fault) settings.outputDir)
      (Artifact.textOf settings (refused fault)) []).run).run found.tree = (.ok (), final)) :
    ∃ after, (runWith settings {} (return ()) compile [settings.outputDir] Observer.silent
        ()).perform machine found =
          (.ok (⟨[(refused fault).withArtifact settings.outputDir], .fraction (totalDuration [])⟩, ()),
            after) ∧
      after.tree = final ∧ after.registry = found.registry := by
  obtain ⟨errors, performed⟩ := loadFrom_perform machine found settings.baseDir [] [settings.outputDir]
  rw [dialects] at performed
  have loaded := performed.trans (congrArg (·, found.withErrors errors) loads)
  have compiles : (compilePlanned settings {} (return ()) compile
      (plannedJobs settings {} [refused fault])).perform machine (found.withErrors errors) =
        (.ok [], found.withErrors errors) := rfl
  have prepared := prepare_eq_ok_iff.mpr ⟨_, loaded, compiles⟩
  have judged : judgeAll ⟨found.tree, []⟩ {} none [] [refused fault] = .ok [refused fault] := rfl
  obtain ⟨after, announced, rest⟩ := exists_announce (found.withErrors errors) wrote
  exact ⟨after, (runWith_eq_ok_iff Observer.keepsPaths_silent prepared).mpr
    ⟨_, judged, _, announced, rfl⟩, rest⟩

theorem targetOf_refused (fault : Fault) :
    Artifact.targetOf (refused fault) settings.outputDir = .ofParts ["out", "out.cc"] := by
  cases fault <;> decide

/-- Nothing is where the output is to be. -/
theorem readBytes_tree : readBytes tree [] settings.outputDir.toString =
    .error (troubleAt settings.outputDir.toString .missing) := by
  have nothing : tree.entry? settings.outputDir.parts = none := rfl
  have failed : status tree [] settings.outputDir.toString = .error .missing := by
    rw [isPlain_outputDir.status_eq (by decide) ⟨by decide, by decide⟩ (tree.hasAbove_singleton _),
      nothing]
    · rfl
    · rw [nothing]
      exact fun target => nofun
  rw [readBytes, isPlain_outputDir.hasNull_toString, failed]
  rfl

/-- Where the output is there is a directory then. -/
theorem readBytes_refusedTree : readBytes refusedTree [] settings.outputDir.toString =
    .error (troubleAt settings.outputDir.toString .isDirectory) := by
  have directory : refusedTree.entry? ["out"] = some .directory := by decide +kernel
  rw [readBytes, isPlain_outputDir.hasNull_toString, status_outputDir directory]
  rfl

/-- The first run makes the directory of the output and writes a generated test there. -/
theorem writeFile_tree :
    ((Artifact.writeFile (Artifact.targetOf (refused .missing) settings.outputDir)
      (Artifact.textOf settings (refused .missing)) []).run).run tree = (.ok (), refusedTree) := by
  have made : ((makeDirectories [] settings.outputDir).run).run tree = (.ok (), outputTree) := by
    have place : settings.outputDir = .ofParts ["out"] := rfl
    rw [place]
    unfold outputTree tree
    generalize Text.encodeUtf8 Sample.text = bytes
    cbv
  rw [targetOf_refused]
  exact writeFile_output (isName_iff.mpr (by decide)) ⟨by decide, by decide⟩ made rfl (.inl rfl) _

/-- The second run writes another generated test in its place. -/
theorem exists_writeFile_refusedTree : ∃ final,
    ((Artifact.writeFile (Artifact.targetOf (refused .isDirectory) settings.outputDir)
      (Artifact.textOf settings (refused .isDirectory)) []).run).run refusedTree =
        (.ok (), final) := by
  have directory : refusedTree.entry? ["out"] = some .directory := by decide +kernel
  have lies : refusedTree.entry? ["out", "out.cc"] =
      some (.file (Text.encodeUtf8 (Artifact.textOf settings (refused .missing))) false) :=
    Tree.Written.entry?_set_self (List.cons_ne_nil _ _)
  rw [targetOf_refused]
  exact ⟨_, writeFile_output (isName_iff.mpr (by decide)) ⟨by decide, by decide⟩
    (run_makeDirectories_outputDir directory) directory (.inr ⟨_, lies⟩) _⟩

/-- There is no link in the tree that the first run leaves. -/
theorem unlinked_refusedTree (place : Place) : refusedTree.Unlinked place := by
  refine Tree.unlinked_of_linkless (fun entry member => ?_) place
  have entries : refusedTree.entries = tree.entries ++ [(["out"], .directory), (["out", "out.cc"],
      .file (Text.encodeUtf8 (Artifact.textOf settings (refused .missing))) false)] := rfl
  simp only [entries, tree, List.cons_append, List.nil_append, List.mem_cons, List.not_mem_nil,
    or_false] at member
  rcases member with rfl | rfl | rfl <;> exact nofun

end Sample

/-! ## Whole runs -/

end NegativeCompile
