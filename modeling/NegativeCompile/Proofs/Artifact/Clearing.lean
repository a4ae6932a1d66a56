import NegativeCompile.Proofs.Job.JobFiles
import NegativeCompile.Proofs.Run.Sparing

/-! # Generated tests and what lies beside them

Where the generated tests of fragments are written (`Artifact.targetOf`), against the directories of
jobs and the fragments themselves. Generated tests never share a file. They are clear of the rest just
if no name of a fragment is made up of another one and the suffix of generated tests, and then a run
leaves fragments as they are (`targets_clear_iff`). Two fragments of such names can be read
(`targets_not_clear`). -/

namespace NegativeCompile

open Files

variable {item other : FragmentResult} {items : List FragmentResult} {outputDir base path : Path}
variable {paths : List Path} {registry : Registry} {place : Surroundings} {machine : Machine}
variable {world after : World}

/-! ## Targets -/

namespace Artifact

/-- A key that is a name or empty makes up the name of a generated test. -/
theorem isName_append_suffix {key : String} (keyed : IsName key ∨ key = "") :
    IsName (key ++ ".cc") := by
  rcases keyed with named | rfl
  · exact named.append (by decide) (by decide)
  · exact isName_iff.mpr (by decide)

/-- A generated test is directly in the directory of the output, under the key of its fragment. -/
theorem targetOf_eq (keyed : IsName item.key ∨ item.key = "") (outputDir : Path) :
    targetOf item outputDir = ⟨outputDir.slashes, outputDir.parts ++ [item.key ++ ".cc"]⟩ :=
  Path.append_of_isName outputDir (isName_append_suffix keyed)

/-- A generated test is written to the directory of a fragment's jobs just if the key of the fragment
is the name of the test. -/
theorem targetOf_eq_directory_iff (keyed : IsName item.key ∨ item.key = "")
    (also : IsName other.key ∨ other.key = "") :
    targetOf item outputDir = outputDir.append other.key ↔ other.key = item.key ++ ".cc" := by
  rw [targetOf_eq keyed]
  rcases also with named | empty
  · rw [Path.append_of_isName _ named, Files.Path.mk.injEq]
    simp [eq_comm]
  · rw [empty, Path.append_empty]
    constructor
    · intro same
      have longer := congrArg (fun path : Path => path.parts.length) same
      simp at longer
    · exact fun same => absurd same.symm (isName_append_suffix keyed).ne_empty

/-- Two fragments have one generated test just if they have one key. -/
theorem targetOf_eq_iff (keyed : IsName item.key ∨ item.key = "")
    (also : IsName other.key ∨ other.key = "") :
    targetOf item outputDir = targetOf other outputDir ↔ item.key = other.key := by
  rw [targetOf_eq keyed, targetOf_eq also, Files.Path.mk.injEq]
  simp only [true_and, List.append_cancel_left_eq, List.cons.injEq, and_true]
  exact String.append_left_inj ".cc"

end Artifact

/-- The generated tests of fragments are clear of the directories of jobs and of fragments. -/
structure TargetsClear (outputDir : Path) (items : List FragmentResult) : Prop where
  /-- No generated test is the directory of a fragment's jobs. -/
  directories : ∀ item ∈ items, ∀ other ∈ items,
    Artifact.targetOf item outputDir ≠ outputDir.append other.key
  /-- No generated test is a fragment. -/
  sources : ∀ item ∈ items, ∀ other ∈ items, Artifact.targetOf item outputDir ≠ other.path

/-- The key of a result of reading is a name or empty. -/
theorem ReadAs.isName_or_eq_empty (here : ∀ name ∈ place.here, isPart name = true)
    (read : ReadAs registry place base path item) : IsName item.key ∨ item.key = "" :=
  Surroundings.isName_or_eq_empty here read.key_eq

/-- The results of reading distinct fragments have keys that are names or empty. -/
theorem isName_or_eq_empty_of_loadFragments (here : ∀ name ∈ machine.here, isPart name = true)
    (loaded : (loadFragments base paths).perform machine world = (.ok items, after)) :
    ∀ item ∈ items, IsName item.key ∨ item.key = "" := by
  obtain ⟨reads, -, -⟩ := loadFragments_eq_ok loaded
  intro item member
  obtain ⟨path, -, read⟩ := reads.exists_of_mem_right member
  exact read.isName_or_eq_empty here

/-- Generated tests of distinct fragments that were read are distinct files. -/
theorem nodup_targets (here : ∀ name ∈ machine.here, isPart name = true) (distinct : paths.Nodup)
    (outputDir : Path)
    (loaded : (loadFragments base paths).perform machine world = (.ok items, after)) :
    (items.map (Artifact.targetOf · outputDir)).Nodup := by
  have keyed := isName_or_eq_empty_of_loadFragments here loaded
  have keys := nodup_keys distinct loaded
  refine List.Nodup.map_on (fun item member other also same => ?_) keys.of_map
  have sameKey := (Artifact.targetOf_eq_iff (keyed item member) (keyed other also)).mp same
  exact List.inj_on_of_nodup_map keys member also sameKey

/-- Generated tests of fragments that were read are clear of everything else just if no key is another
one with the suffix of generated tests, and no fragment lies in the directory of the output under such
a name. -/
theorem targetsClear_iff (here : ∀ name ∈ machine.here, isPart name = true) (outputDir : Path)
    (loaded : (loadFragments base paths).perform machine world = (.ok items, after)) :
    TargetsClear outputDir items ↔
      (∀ item ∈ items, ∀ other ∈ items, other.key ≠ item.key ++ ".cc") ∧
        ∀ item ∈ items, ∀ path ∈ paths,
          path ≠ ⟨outputDir.slashes, outputDir.parts ++ [item.key ++ ".cc"]⟩ := by
  obtain ⟨reads, -, -⟩ := loadFragments_eq_ok loaded
  have keyed := isName_or_eq_empty_of_loadFragments here loaded
  constructor
  · rintro ⟨directories, sources⟩
    refine ⟨fun item member other also same => ?_, fun item member path listed same => ?_⟩
    · exact directories item member other also
        ((Artifact.targetOf_eq_directory_iff (keyed item member) (keyed other also)).mpr same)
    · obtain ⟨other, also, read⟩ := reads.exists_of_mem_left listed
      refine sources item member other also ?_
      rw [Artifact.targetOf_eq (keyed item member), ← same,
        (FragmentResult.path_eq_of_ofLoad read.load_eq).1]
  · rintro ⟨keys, places⟩
    refine ⟨fun item member other also same => ?_, fun item member other also same => ?_⟩
    · exact keys item member other also
        ((Artifact.targetOf_eq_directory_iff (keyed item member) (keyed other also)).mp same)
    · obtain ⟨path, listed, read⟩ := reads.exists_of_mem_right also
      refine places item member path listed ?_
      rw [← Artifact.targetOf_eq (keyed item member), same,
        (FragmentResult.path_eq_of_ofLoad read.load_eq).1]

/-! ## Runs -/

/-- What a run on fragments may change: it makes the directories of jobs, and those above them, and
writes generated tests. -/
def runReach (outputDir : Path) (items : List FragmentResult) : Reach where
  made place := place <+: outputDir.parts ∨ ∃ item ∈ items, place <+: (outputDir.append item.key).parts
  written place := ∃ item ∈ items, place = (Artifact.targetOf item outputDir).parts

/-- A name below a plain path makes up a plain path. -/
theorem Files.Path.IsPlain.append_of_isName (plain : outputDir.IsPlain) {name : String}
    (named : IsName name) : (outputDir.append name).IsPlain := by
  rw [Path.append_of_isName outputDir named]
  exact ⟨plain.slashes, Path.Each.concat plain.names named⟩

/-- Plain paths with the same parts are the same. -/
theorem Files.Path.IsPlain.eq_of_parts {other : Path} (plain : path.IsPlain) (also : other.IsPlain)
    (same : path.parts = other.parts) : path = other := by
  obtain ⟨slashes, parts⟩ := path
  obtain ⟨slashes', parts'⟩ := other
  exact Path.mk.injEq .. ▸ ⟨plain.slashes.trans also.slashes.symm, same⟩

/-- The reach of a run covers the directories of its jobs. -/
theorem coversJob_runReach {settings : Settings} {options : RunOptions} {job : Job}
    (plain : settings.outputDir.IsPlain) (keyed : ∀ item ∈ items, IsName item.key ∨ item.key = "")
    (planned : job ∈ plannedJobs settings options items) :
    (runReach settings.outputDir items).CoversJob job := by
  obtain ⟨item, member, fragment, -, testCase, -, rfl⟩ := mem_plannedJobs.mp planned
  have directory : (Job.own fragment item.key settings.outputDir testCase).directory =
      settings.outputDir.append item.key := rfl
  constructor
  · rw [directory]
    rcases keyed item member with named | empty
    · exact plain.append_of_isName named
    · rw [empty, Path.append_empty]
      exact plain
  · rw [directory]
    exact fun above starts => .inr ⟨item, member, starts⟩

/-- The reach of a run covers its generated tests. -/
theorem covers_runReach (plain : outputDir.IsPlain)
    (keyed : ∀ item ∈ items, IsName item.key ∨ item.key = "") (member : item ∈ items) :
    Artifact.Covers (runReach outputDir items) (Artifact.targetOf item outputDir) := by
  refine ⟨plain.append_of_isName (Artifact.isName_append_suffix (keyed item member)), ?_,
    ⟨item, member, rfl⟩⟩
  rw [Artifact.targetOf_eq (keyed item member), Path.parent, List.dropLast_concat]
  exact fun above starts => .inl starts

/-- A run leaves fragments as they are, and makes no directory where a generated test goes. -/
structure Spares (outputDir : Path) (paths : List Path) (items : List FragmentResult)
    (before after : Tree) : Prop where
  /-- What lies at the plain path of a fragment stays as it is. -/
  sources : ∀ path ∈ paths, path.IsPlain → before.entry? path.parts ≠ none →
    after.entry? path.parts = before.entry? path.parts
  /-- A directory in the place of a generated test was there before. -/
  targets : ∀ item ∈ items,
    after.entry? (Artifact.targetOf item outputDir).parts = some .directory →
      before.entry? (Artifact.targetOf item outputDir).parts = some .directory

/-- Changes within the reach of a run spare what they have to if generated tests are clear. -/
theorem TargetsClear.spares {before after : Tree} (clear : TargetsClear outputDir items)
    (plain : outputDir.IsPlain) (keyed : ∀ item ∈ items, IsName item.key ∨ item.key = "")
    (reads : ∀ path ∈ paths, ∃ item ∈ items, item.path = path)
    (bounds : (runReach outputDir items).Bounds before after) :
    Spares outputDir paths items before after := by
  have targets {item : FragmentResult} (member : item ∈ items) :=
    (covers_runReach plain keyed member).plain
  constructor
  · -- A source is spared unless it is where a generated test is put.
    intro path listed straight there
    refine (bounds path.parts).eq_of_unwritten there ?_
    rintro ⟨item, member, same⟩
    obtain ⟨other, also, rfl⟩ := reads path listed
    exact clear.sources item member other also ((targets member).eq_of_parts straight same.symm)
  · -- A directory where a test belongs was there before, unless it was made on the way to another test.
    intro item member directory
    have change := bounds (Artifact.targetOf item outputDir).parts
    rw [directory] at change
    refine change.eq_of_unmade ?_
    have longer : ¬ (Artifact.targetOf item outputDir).parts <+: outputDir.parts := by
      rw [Artifact.targetOf_eq (keyed item member)]
      intro starts
      have short := starts.length_le
      simp at short
    rintro (starts | ⟨other, also, starts⟩)
    · exact longer starts
    · rcases keyed other also with named | empty
      · refine clear.directories item member other also ?_
        rw [Artifact.targetOf_eq_directory_iff (keyed item member) (.inl named)]
        rw [Artifact.targetOf_eq (keyed item member), Path.append_of_isName _ named,
          List.prefix_append_right_inj] at starts
        exact (List.head_eq_of_cons_eq (List.IsPrefix.eq_of_length starts rfl)).symm
      · rw [empty, Path.append_empty] at starts
        exact longer starts

/-- What observes a run leaves the files as they are. -/
def Observer.LeavesFiles {σ : Type} (observe : Observer σ) : Prop :=
  ∀ state result index total machine world,
    ((observe state result index total).perform machine world).2.tree = world.tree

/-- A run on fragments whose generated tests are clear of everything else spares what it has to,
however it ends. -/
theorem TargetsClear.spares_run {σ : Type} {settings : Settings} {observe : Observer σ}
    (clear : TargetsClear settings.outputDir items) (plain : settings.outputDir.IsPlain)
    (here : ∀ name ∈ machine.here, isPart name = true)
    (unlinked : (runReach settings.outputDir items).IsClear world.tree)
    (loaded : (loadFragments settings.baseDir paths).perform machine world = (.ok items, after))
    (quiet : observe.LeavesFiles) (options : RunOptions) (state : σ) :
    Spares settings.outputDir paths items world.tree
      ((run settings options paths observe state).perform machine world).2.tree := by
  have keyed := isName_or_eq_empty_of_loadFragments here loaded
  obtain ⟨reads, -, same⟩ := loadFragments_eq_ok loaded
  let reach := runReach settings.outputDir items
  let compiler := Compiler.ofSettings (options.compilerFor settings)
  have gradual := reach.isGradual_steps
  have looks : Action.Changes reach.Steps (do let _ ← compiler.find) :=
    .bind gradual (compiler.stays_find gradual.isFrame) fun _ => .pure gradual ()
  have compiles : ∀ job ∈ plannedJobs settings options items,
      Action.Changes reach.Steps (compiler.compile job) := fun job planned =>
    compiler.changes_compile (coversJob_runReach plain keyed planned)
  have told : ∀ state result index total,
      Action.Changes reach.Steps (observe state result index total) :=
    fun state result index total => .of_tree_eq gradual (quiet state result index total)
  have within := changes_proceed looks compiles told
    (fun item member => covers_runReach plain keyed member) state machine after
  rw [run, runWith_eq, Action.perform_bind_of_ok loaded]
  rw [same] at within
  refine clear.spares plain keyed (fun path listed => ?_) (within unlinked)
  obtain ⟨item, member, read⟩ := reads.exists_of_mem_left listed
  exact ⟨item, member, (FragmentResult.path_eq_of_ofLoad read.load_eq).1⟩

/-- Generated tests of distinct fragments that were read are distinct files. They are clear of the
directories of jobs and of fragments just if no key is another one with the suffix of generated tests
and no fragment lies in the directory of the output under such a name. Then a run leaves all fragments
as they are, and it makes no directory where it would write a test, however it ends, if it meets no
links and what observes it writes no files. -/
theorem targets_clear_iff {settings : Settings}
    (here : ∀ name ∈ machine.here, isPart name = true) (distinct : paths.Nodup)
    (loaded : (loadFragments settings.baseDir paths).perform machine world = (.ok items, after)) :
    (items.map (Artifact.targetOf · settings.outputDir)).Nodup ∧
      (TargetsClear settings.outputDir items ↔
        (∀ item ∈ items, ∀ other ∈ items, other.key ≠ item.key ++ ".cc") ∧
          ∀ item ∈ items, ∀ path ∈ paths,
            path ≠ ⟨settings.outputDir.slashes, settings.outputDir.parts ++ [item.key ++ ".cc"]⟩) ∧
        (TargetsClear settings.outputDir items → settings.outputDir.IsPlain →
          (runReach settings.outputDir items).IsClear world.tree →
            ∀ (σ : Type) (observe : Observer σ), observe.LeavesFiles →
              ∀ (options : RunOptions) (state : σ),
                Spares settings.outputDir paths items world.tree
                  ((run settings options paths observe state).perform machine world).2.tree) :=
  ⟨nodup_targets here distinct _ loaded, targetsClear_iff here _ loaded,
    fun clear plain unlinked _ _ quiet options state =>
      clear.spares_run plain here unlinked loaded quiet options state⟩

/-! ## Samples -/

/-- The generated test of the sample is clear of everything else, so a run spares the sample. -/
theorem targets_clear_sample :
    TargetsClear Sample.settings.outputDir [Sample.item] ∧
      ∀ options : RunOptions, Spares Sample.settings.outputDir [Sample.source] [Sample.item]
        Sample.tree ((run Sample.settings options [Sample.source] Observer.silent ()).perform
          Sample.machine Sample.world).2.tree := by
  have files : Sample.world.tree = Sample.tree := rfl
  obtain ⟨errors, loaded⟩ := Sample.loadFragments_settings files rfl
  obtain ⟨-, exactly, spares⟩ := targets_clear_iff
    (fun _ member => absurd member List.not_mem_nil) (List.nodup_singleton Sample.source) loaded
  have clear : TargetsClear Sample.settings.outputDir [Sample.item] := by
    refine exactly.mpr ⟨?_, ?_⟩ <;> decide
  have plain : Sample.settings.outputDir.IsPlain := by
    refine ⟨rfl, fun part member => ?_⟩
    rw [List.mem_singleton.mp member]
    exact isName_iff.mpr (by decide)
  have linkless : ∀ entry ∈ Sample.tree.entries, ∀ target, entry.2 ≠ .link target := by
    intro entry member target
    rw [List.mem_singleton.mp member]
    exact nofun
  have unlinked : (runReach Sample.settings.outputDir [Sample.item]).IsClear Sample.world.tree :=
    Reach.isClear_of_linkless linkless
  exact ⟨clear, fun options =>
    spares clear plain unlinked Unit Observer.silent (fun _ _ _ _ _ _ => rfl) options ()⟩

namespace Sample

/-- A file that has the name of the sample with the suffix of generated tests. -/
def twin : Path := .ofParts ["a.nc.cc"]

/-- A tree with the sample under both names. -/
def twinTree : Tree :=
  ⟨[(["a.nc"], .file (Text.encodeUtf8 text) false), (["a.nc.cc"], .file (Text.encodeUtf8 text) false)]⟩

/-- A world with that tree. -/
def twinWorld : World := { Sample.world with tree := twinTree }

/-- The path of that file is plain. -/
theorem isPlain_twin : twin.IsPlain :=
  IsName.isPlain_ofParts ⟨by decide, by decide, by decide, by decide⟩

theorem readText_twin : ∀ path ∈ [source, twin], Fragment.readText twinTree [] path = .ok text := by
  intro path member
  rcases List.mem_pair.mp member with rfl | rfl
  · exact Fragment.readText_of_file isPlain_source (by decide) (Path.isShort_ofParts (by decide))
      (twinTree.hasAbove_singleton _) rfl bare_text
  · exact Fragment.readText_of_file isPlain_twin (by decide) (Path.isShort_ofParts (by decide))
      (twinTree.hasAbove_singleton _) rfl bare_text

theorem fragmentKey_twin : ∀ name ∈ ["a.nc", "a.nc.cc"],
    Surroundings.fragmentKey ⟨twinTree, []⟩ (.ofParts [name]) (some (.ofParts [])) = .ok name := by
  intro name member
  have unlinked : twinTree.Unlinked [name] := by
    refine Tree.unlinked_of_linkless (fun entry member => ?_) _
    rcases List.mem_pair.mp member with rfl | rfl <;> exact nofun
  rcases List.mem_pair.mp member with rfl | rfl
  · rw [fragmentKey_ofParts isPlain_source unlinked, keyOfParts_singleton (by simp)]
  · rw [fragmentKey_ofParts isPlain_twin unlinked, keyOfParts_singleton (by simp)]

end Sample

/-- Of two fragments, one with the name of the other and the suffix of generated tests, the generated
test of the other is where the jobs of the first make their directory. It is the first one itself if
the directory of the output is that of the fragments. -/
theorem targets_not_clear :
    ∃ item other,
      ((loadFragments (.ofParts []) [Sample.source, Sample.twin]).perform Sample.machine
          Sample.twinWorld).1 = .ok [item, other] ∧
        (∀ outputDir : Path, Artifact.targetOf item outputDir = outputDir.append other.key) ∧
          Artifact.targetOf item (.ofParts []) = other.path := by
  refine ⟨.ofFragment Sample.source "a.nc" (Sample.fragmentAt Sample.source),
    .ofFragment Sample.twin "a.nc.cc" (Sample.fragmentAt Sample.twin), ?_, fun _ => rfl, by decide⟩
  obtain ⟨errors, performed⟩ := loadFrom_perform Sample.machine Sample.twinWorld (.ofParts []) []
    [Sample.source, Sample.twin]
  have key : Surroundings.fragmentKey ⟨Sample.twinTree, []⟩ Sample.source (some (.ofParts [])) =
      .ok "a.nc" := Sample.fragmentKey_twin "a.nc" (by decide)
  have otherKey : Surroundings.fragmentKey ⟨Sample.twinTree, []⟩ Sample.twin (some (.ofParts [])) =
      .ok "a.nc.cc" := Sample.fragmentKey_twin "a.nc.cc" (by decide)
  have loaded : Fragment.load .standard Sample.twinTree [] Sample.source =
      .ok (Sample.fragmentAt Sample.source) :=
    Sample.load_text (Sample.readText_twin _ (by decide)) (by decide +kernel)
  have otherLoaded : Fragment.load .standard Sample.twinTree [] Sample.twin =
      .ok (Sample.fragmentAt Sample.twin) :=
    Sample.load_text (Sample.readText_twin _ (by decide)) (by decide +kernel)
  rw [loadFragments, performed]
  simp only [loadedFrom, Sample.twinWorld, Sample.world, Sample.machine, key, otherKey, loaded,
    otherLoaded, Except.ok_bind]
  rfl

end NegativeCompile
