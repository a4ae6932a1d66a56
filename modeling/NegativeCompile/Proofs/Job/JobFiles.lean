import NegativeCompile.Proofs.Dialect.CaseNames
import NegativeCompile.Proofs.Run.Isolating

/-! # The files of jobs

Each job names two files, in a directory below that of the output, whose name is the key of its
fragment. No file is named twice by the jobs of a run, and they are where they should be just if the
keys are names (`loadFragments_keeps_apart`). The key of a path may be no name: it is empty if all
parts of the path are taken for roots, and then a job names files directly in the directory of the
output (`job_file_without_directory`). -/

namespace NegativeCompile

open Files

variable {settings : Settings} {options : RunOptions} {job other : Job} {jobs : List Job}
variable {items : List FragmentResult} {fragment : Fragment} {base path : Path} {paths : List Path}
variable {registry : Registry} {place : Surroundings} {ending last : String}

/-! ## Paths with a name added -/

namespace Files

/-- A path with a name added has one more part. -/
theorem Path.append_of_isName {name : String} (base : Path) (named : IsName name) :
    base.append name = ⟨base.slashes, base.parts ++ [name]⟩ := by
  rw [Path.append, named.ofString_eq]
  rfl

/-- Nothing is added to a path by an empty name. -/
theorem Path.append_empty (base : Path) : base.append "" = base := by
  have nothing : Path.ofString "" = ⟨0, []⟩ := by decide
  rw [Path.append, nothing]
  exact congrArg (Path.mk base.slashes) (List.append_nil _)

end Files

/-! ## One job -/

namespace Job

/-- The files that a job names. -/
def files (job : Job) : List Path := [job.depfile, job.placeholder]

/-- A job has its files in a directory of its fragment, directly below that of the output. -/
structure FilesBelow (job : Job) : Prop where
  /-- The key is the name of the directory. -/
  key : IsName job.key
  /-- What the names of the files have in common is a name. -/
  stem : IsName job.stem
  /-- The file that lists headers is in that directory. -/
  depfile : job.depfile =
    ⟨job.outputDir.slashes, job.outputDir.parts ++ [job.key, job.stem ++ ".d"]⟩
  /-- The object file is in that directory. -/
  placeholder : job.placeholder =
    ⟨job.outputDir.slashes, job.outputDir.parts ++ [job.key, job.stem ++ ".o"]⟩

/-- The names of a job's files are what they should be, but for an empty key. -/
structure Placed (job : Job) : Prop where
  /-- The key is a name or empty. -/
  key : IsName job.key ∨ job.key = ""
  /-- What the names of the files have in common is a name. -/
  stem : IsName job.stem

/-- The parts that a key adds to a path. -/
def keyParts (job : Job) : List String := if job.key = "" then [] else [job.key]

/-- The parts that a key adds to a path determine it. -/
theorem key_eq_of_keyParts (same : job.keyParts = other.keyParts) : job.key = other.key := by
  unfold keyParts at same
  split at same
  next empty =>
    split at same
    next nothing => exact empty.trans nothing.symm
    · cases same
  · split at same
    · cases same
    · exact List.singleton_inj.mp same

/-- The endings of the names of a job's files. -/
def endings : List String := [".d", ".o"]

/-- A name with one of the endings is a name. -/
theorem Placed.isName (placed : job.Placed) (known : ending ∈ endings) :
    IsName (job.stem ++ ending) := by
  have clean : ∀ ending ∈ endings, '/' ∉ ending.toList ∧ '\x00' ∉ ending.toList := by decide
  exact placed.stem.append (clean ending known).1 (clean ending known).2

/-- Where a file of a job is. -/
theorem Placed.file_eq (placed : job.Placed) (known : ending ∈ endings) :
    job.directory.append (job.stem ++ ending) =
      ⟨job.outputDir.slashes, job.outputDir.parts ++ job.keyParts ++ [job.stem ++ ending]⟩ := by
  have directory : job.directory =
      ⟨job.outputDir.slashes, job.outputDir.parts ++ job.keyParts⟩ := by
    rcases placed.key with named | empty
    · rw [Job.directory, Path.append_of_isName _ named, keyParts, if_neg named.ne_empty]
    · rw [Job.directory, empty, Path.append_empty, keyParts, if_pos empty, List.append_nil]
  rw [Path.append_of_isName _ (placed.isName known), directory]

/-- A file is named by one key, with one stem and one ending. -/
theorem Placed.eq_of_file_eq (placed : job.Placed) (also : other.Placed)
    (together : job.outputDir = other.outputDir) (known : ending ∈ endings) (final : last ∈ endings)
    (same : job.directory.append (job.stem ++ ending) = other.directory.append (other.stem ++ last)) :
    job.key = other.key ∧ job.stem = other.stem ∧ ending = last := by
  rw [placed.file_eq known, also.file_eq final, together] at same
  obtain ⟨before, named⟩ := List.append_inj' (Files.Path.mk.inj same).2 rfl
  have equal := congrArg String.toList (List.singleton_inj.mp named)
  rw [String.toList_append, String.toList_append] at equal
  have two : ∀ ending ∈ endings, ending.toList.length = 2 := by decide
  obtain ⟨stems, ends⟩ := List.append_inj' equal ((two ending known).trans (two last final).symm)
  exact ⟨key_eq_of_keyParts (List.append_cancel_left before), String.toList_inj.mp stems,
    String.toList_inj.mp ends⟩

/-- The files of a job are named by its stem and the endings. -/
theorem mem_files : path ∈ job.files ↔
    ∃ ending ∈ endings, path = job.directory.append (job.stem ++ ending) := by
  simp [files, endings, depfile, placeholder]

/-- A job names two files. -/
theorem Placed.nodup_files (placed : job.Placed) : job.files.Nodup := by
  refine List.nodup_cons.mpr ⟨fun member => ?_, List.nodup_singleton _⟩
  have same := List.mem_singleton.mp member
  have ends := (placed.eq_of_file_eq placed rfl (by decide) (by decide) same).2.2
  exact absurd ends (by decide)

/-- The files of a job are in the directory of its fragment just if the key is a name. -/
theorem Placed.filesBelow_iff (placed : job.Placed) : job.FilesBelow ↔ IsName job.key := by
  refine ⟨FilesBelow.key, fun named => ?_⟩
  have parts : job.keyParts = [job.key] := if_neg named.ne_empty
  refine ⟨named, placed.stem, ?_, ?_⟩
  · rw [depfile, placed.file_eq (by decide), parts, List.append_assoc]
    rfl
  · rw [placeholder, placed.file_eq (by decide), parts, List.append_assoc]
    rfl

/-- The own job of a case of a fragment with names has a name for its files. -/
theorem isName_stem_own {key : String} {outputDir : Path} {testCase : TestCase}
    (names : fragment.HasNames) (listed : testCase ∈ fragment.cases) :
    IsName (own fragment key outputDir testCase).stem := by
  cases guarded : fragment.isGuarded with
  | true =>
    have stem : (own fragment key outputDir testCase).stem = testCase.name := by
      rw [own, guarded]
      rfl
    rw [stem]
    exact names guarded testCase listed
  | false =>
    have stem : (own fragment key outputDir testCase).stem = "fragment" := by
      rw [own, guarded]
      rfl
    rw [stem, isName_iff]
    decide

end Job

/-! ## All jobs -/

/-- The key of a job of a run and the name of its files determine the job. -/
theorem Loaded.eq_of_stem (all : Loaded items) (planned : job ∈ plannedJobs settings options items)
    (also : other ∈ plannedJobs settings options items) (sameKey : job.key = other.key)
    (sameStem : job.stem = other.stem) : job = other := by
  refine all.eq_of_identity planned also ?_
  -- Equal keys mean the same fragment, so both jobs are for the whole of it or for one case each.
  obtain ⟨item, -, fragment, -, testCase, -, testCase', -, rfl, rfl⟩ :=
    all.exists_own_of_key planned also sameKey
  cases guarded : fragment.isGuarded with
  | true =>
    have names : testCase.name = testCase'.name := by
      simpa [Job.own, Job.stem, guarded] using sameStem
    rw [Job.identity_own_of_guarded guarded, Job.identity_own_of_guarded guarded, names]
  | false => rw [Job.identity_own_of_together guarded, Job.identity_own_of_together guarded]

/-- The jobs of a run write to one directory. -/
theorem outputDir_of_mem_plannedJobs (planned : job ∈ plannedJobs settings options items) :
    job.outputDir = settings.outputDir := by
  obtain ⟨item, -, fragment, -, testCase, -, rfl⟩ := mem_plannedJobs.mp planned
  rfl

/-- No file is named twice by jobs of a run. -/
theorem Loaded.nodup_files (all : Loaded items) (keys : (items.map (·.key)).Nodup)
    (planned : jobs.Sublist (plannedJobs settings options items))
    (placed : ∀ job ∈ jobs, job.Placed) : (jobs.flatMap Job.files).Nodup := by
  have apart : jobs.Nodup := (all.nodup_identities keys).of_map.sublist planned
  rw [List.nodup_flatMap]
  refine ⟨fun job member => (placed job member).nodup_files, ?_⟩
  refine apart.imp_of_mem fun {job other} member again differ => ?_
  rw [Function.onFun, List.disjoint_left]
  intro path here there
  obtain ⟨ending, known, rfl⟩ := Job.mem_files.mp here
  obtain ⟨last, final, same⟩ := Job.mem_files.mp there
  have inRun := planned.subset member
  have alsoInRun := planned.subset again
  have together : job.outputDir = other.outputDir :=
    (outputDir_of_mem_plannedJobs inRun).trans (outputDir_of_mem_plannedJobs alsoInRun).symm
  obtain ⟨sameKey, sameStem, -⟩ :=
    (placed job member).eq_of_file_eq (placed other again) together known final same
  exact differ (all.eq_of_stem inRun alsoInRun sameKey sameStem)

/-- A fragment was read by a known dialect. -/
def Fragment.IsKnown (registry : Registry) (fragment : Fragment) : Prop :=
  ∃ dialect, registry.select fragment.text = .ok dialect ∧ dialect.IsKnown

/-- A fragment that was read has the path and the text it was read from. -/
theorem Fragment.exists_parse_of_load {tree : Tree} {start : Place}
    (loaded : Fragment.load registry tree start path = .ok fragment) :
    fragment.path = path ∧ Fragment.parse registry path fragment.text = .ok fragment := by
  obtain ⟨text, -, parsed⟩ := Except.bind_eq_ok_iff.mp loaded
  have origin : fragment.path = path ∧ fragment.text = text := by
    obtain ⟨dialect, -, afterChoice⟩ := Except.bind_eq_ok_iff.mp parsed
    obtain ⟨cases, -, afterCases⟩ := Except.bind_eq_ok_iff.mp afterChoice
    obtain ⟨-, -, equal⟩ := Except.bind_eq_ok_iff.mp afterCases
    rw [← Except.ok.inj equal]
    exact ⟨rfl, rfl⟩
  exact ⟨origin.1, origin.2 ▸ parsed⟩

/-- A planned job of a fragment that a known dialect read is placed, and it is the key of its path
that it has. -/
theorem placed_of_mem_plannedJobs (here : ∀ name ∈ place.here, isPart name = true)
    (reads : List.Forall₂ (ReadAs registry place base) paths items)
    (planned : job ∈ plannedJobs settings options items) (known : job.fragment.IsKnown registry) :
    job.Placed ∧ place.fragmentKey job.fragment.path (some base) = .ok job.key := by
  obtain ⟨item, member, fragment, holds, testCase, chosen, rfl⟩ := mem_plannedJobs.mp planned
  obtain ⟨path, -, read⟩ := reads.exists_of_mem_right member
  obtain ⟨origin, parsed⟩ := Fragment.exists_parse_of_load (read.load_eq_ok holds)
  obtain ⟨dialect, selected, isKnown⟩ := known
  have names : fragment.HasNames := Fragment.hasNames_of_parse selected isKnown parsed
  have listed := (RunOptions.mem_chosenCases.mp chosen).1
  have keyed : place.fragmentKey fragment.path (some base) = .ok item.key := by
    rw [origin]
    exact read.key_eq
  exact ⟨⟨Surroundings.isName_or_eq_empty here keyed, Job.isName_stem_own names listed⟩, keyed⟩

/-! ## Runs -/

/-- Reading fragments from distinct paths is refused just if two of the paths clash. If none do, the
jobs of fragments that known dialects read name no file twice, and a job has its files in the directory
of its fragment just if the key of the fragment is made of more than roots. -/
theorem loadFragments_keeps_apart (machine : Machine) (world : World)
    (here : ∀ name ∈ machine.here, isPart name = true) (distinct : paths.Nodup)
    (keyed : ∀ path ∈ paths, ∃ key,
      Surroundings.fragmentKey ⟨world.tree, machine.here⟩ path (some base) = .ok key)
    (only : ∀ path ∈ paths, Except.FailsOnly Failure.IsAnnotations
      (Fragment.load world.registry world.tree machine.here path)) :
    ((∃ message, ((loadFragments base paths).perform machine world).1 =
          .error (.configuration message)) ↔
        ∃ first second key, Clash ⟨world.tree, machine.here⟩ base paths first second key) ∧
      ((∀ first second key, ¬ Clash ⟨world.tree, machine.here⟩ base paths first second key) →
        ∃ items after, (loadFragments base paths).perform machine world = (.ok items, after) ∧
          ∀ (settings : Settings) (options : RunOptions) (jobs : List Job),
            jobs.Sublist (plannedJobs settings options items) →
            (∀ job ∈ jobs, job.fragment.IsKnown world.registry) →
              (jobs.flatMap Job.files).Nodup ∧
              ∀ job ∈ jobs, job.outputDir = settings.outputDir ∧
                (job.FilesBelow ↔
                  Surroundings.HasNamedKey ⟨world.tree, machine.here⟩ base job.fragment.path)) := by
  obtain ⟨errors, ⟨items, loaded, reads, apart⟩ | ⟨first, second, key, clash, refused⟩⟩ :=
    loadFragments_outcome machine world keyed only
  · constructor
    · rw [loaded]
      constructor
      · rintro ⟨message, fails⟩
        cases fails
      · rintro ⟨first, second, key, clash⟩
        exact absurd clash (apart first second key)
    · intro _
      refine ⟨items, _, loaded, fun settings options jobs planned known => ?_⟩
      have placed : ∀ job ∈ jobs, job.Placed ∧
          Surroundings.fragmentKey ⟨world.tree, machine.here⟩ job.fragment.path (some base) =
            .ok job.key := fun job member =>
        placed_of_mem_plannedJobs here reads (planned.subset member) (known job member)
      have all := Loaded.of_loadFragments loaded
      refine ⟨all.nodup_files (nodup_keys distinct loaded) planned fun job member =>
        (placed job member).1, fun job member => ?_⟩
      refine ⟨outputDir_of_mem_plannedJobs (planned.subset member), ?_⟩
      obtain ⟨isPlaced, key⟩ := placed job member
      rw [isPlaced.filesBelow_iff]
      exact Surroundings.isName_key_iff here key
  · constructor
    · rw [refused]
      exact ⟨fun _ => ⟨first, second, key, clash⟩, fun _ => ⟨_, rfl⟩⟩
    · exact fun none => absurd clash (none first second key)

/-! ## Samples -/

/-- Two fragments, one of which is missing, keep apart as the theorem says. -/
theorem loadFragments_keeps_apart_sample :
    ∃ items after,
      (loadFragments (.ofParts []) [Sample.source, Sample.missing]).perform Sample.machine
          Sample.world = (.ok items, after) ∧
        ∀ (settings : Settings) (options : RunOptions) (jobs : List Job),
          jobs.Sublist (plannedJobs settings options items) →
            (∀ job ∈ jobs, job.fragment.IsKnown .standard) →
              (jobs.flatMap Job.files).Nodup ∧
              ∀ job ∈ jobs, job.outputDir = settings.outputDir ∧ (job.FilesBelow ↔
                Surroundings.HasNamedKey ⟨Sample.tree, []⟩ (.ofParts []) job.fragment.path) := by
  have sourceKey := Sample.fragmentKey_source
  have missingKey := Sample.fragmentKey_missing (Sample.unlinked_tree _)
  have distinct : [Sample.source, Sample.missing].Nodup := by decide
  have keyed : ∀ path ∈ [Sample.source, Sample.missing], ∃ key, Surroundings.fragmentKey
      ⟨Sample.world.tree, Sample.machine.here⟩ path (some (.ofParts [])) = .ok key := by
    intro path member
    rcases List.mem_pair.mp member with rfl | rfl
    · exact ⟨_, sourceKey⟩
    · exact ⟨_, missingKey⟩
  refine (loadFragments_keeps_apart Sample.machine Sample.world
    (fun _ member => absurd member List.not_mem_nil) distinct keyed fun path member => ?_).2
      Sample.not_clash
  · rcases List.mem_pair.mp member with rfl | rfl
    · have loaded : Fragment.load Sample.world.registry Sample.world.tree Sample.machine.here
          Sample.source = .ok Sample.fragment := Sample.load_source
      rw [loaded]
      exact .ok _
    · have resolved := Sample.resolve_missing
      exact Fragment.failsOnly_load (Surroundings.hasNull_of_resolve resolved) fun text read =>
        absurd read (Sample.readText_missing text)

namespace Sample

/-- A file whose name is a backslash, which is taken for a root. -/
def barred : Path := .ofParts ["\\"]

/-- A tree with the sample under that name. -/
def barredTree : Tree := ⟨[(["\\"], .file (Text.encodeUtf8 text) false)]⟩

/-- A world with that tree. -/
def barredWorld : World := { world with tree := barredTree }

/-- The path of that file is plain. -/
theorem isPlain_barred : barred.IsPlain :=
  IsName.isPlain_ofParts ⟨by decide, by decide, by decide, by decide⟩

/-- There is no link in the tree. -/
theorem unlinked_barredTree (place : Place) : barredTree.Unlinked place := by
  refine Tree.unlinked_of_linkless (fun entry member => ?_) place
  rw [List.mem_singleton.mp member]
  exact nofun

theorem readText_barred : Fragment.readText barredTree [] barred = .ok text :=
  Fragment.readText_of_file isPlain_barred (by decide) (Path.isShort_ofParts (by decide))
    (barredTree.hasAbove_singleton _) rfl bare_text

/-- The sample, read from another path. -/
def fragmentAt (path : Path) : Fragment := { Sample.fragment with path := path }

/-- The sample is read from another path if its markers are. -/
theorem load_text {files : Tree} (read : Fragment.readText files [] path = .ok text)
    (parsed : Inline.parse path text = .ok Sample.fragment.cases) :
    Fragment.load .standard files [] path = .ok (fragmentAt path) := by
  have distinct : checkNames path [] Sample.fragment.cases = .ok () := by rfl
  rw [Fragment.load_eq_inline read (by decide), parsed, Except.ok_bind, distinct]
  rfl

theorem fragmentKey_barred :
    Surroundings.fragmentKey ⟨barredTree, []⟩ barred (some (.ofParts [])) = .ok "" := by
  have key : keyOfParts ["\\"] = "" := by decide
  rw [barred, fragmentKey_ofParts isPlain_barred (unlinked_barredTree _), key]

end Sample

/-- A fragment whose name is taken for a root has an empty key, so its job names files directly in the
directory of the output. -/
theorem job_file_without_directory :
    ∃ item job,
      ((loadFragments (.ofParts []) [Sample.barred]).perform Sample.machine Sample.barredWorld).1 =
          .ok [item] ∧
        job ∈ plannedJobs Sample.settings { } [item] ∧
          job.depfile = .ofParts ["out", "fragment.d"] ∧ ¬ job.FilesBelow := by
  refine ⟨.ofFragment Sample.barred "" (Sample.fragmentAt Sample.barred),
    ⟨Sample.fragmentAt Sample.barred, "", Sample.settings.outputDir, none⟩, ?_, ?_, ?_, ?_⟩
  · obtain ⟨errors, performed⟩ := loadFrom_perform Sample.machine Sample.barredWorld (.ofParts []) []
      [Sample.barred]
    rw [loadFragments, performed, loadedFrom]
    simp only [Sample.barredWorld, Sample.world, Sample.machine, Sample.fragmentKey_barred,
      Sample.load_text Sample.readText_barred (by decide +kernel), Except.ok_bind]
    rfl
  · have chosen : RunOptions.chosenCases { } (Sample.fragmentAt Sample.barred) ≠ [] := by decide
    rw [plannedJobs, List.flatMap_singleton, RunOptions.jobsOf_of_together rfl rfl, if_neg chosen]
    exact List.mem_singleton.mpr rfl
  · decide
  · exact fun below => below.key.ne_empty rfl

end NegativeCompile
