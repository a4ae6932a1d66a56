import Mathlib
import NegativeCompile.Proofs.Run.Collecting
import NegativeCompile.Proofs.Job.Keys
import NegativeCompile.Proofs.Files.Reading

/-! # Judging first, telling afterwards

A run judges a fragment and tells its observer before it goes on to the next fragment. As long as
the observer does not move files it might as well judge all fragments first, as a function of what
was read and compiled (`judgeAll`), and tell of the results and write tests afterwards (`announce`):
`settle_eq_ok_iff`. -/

namespace NegativeCompile

open Files

section

variable {σ : Type} {surroundings other : Surroundings} {settings : Settings} {options : RunOptions}
variable {workdir : Option Path} {compiled compiled' : CompiledJobs} {observe : Observer σ}
variable {item : FragmentResult} {items results written : List FragmentResult} {state last : σ}
variable {expected : Job → CompileOutput → Prop}
variable {machine : Machine} {world after : World}

/-! ## Judging all fragments -/

/-- The results of fragments, as a function of what was read and compiled. -/
def judgeAll (surroundings : Surroundings) (options : RunOptions) (workdir : Option Path)
    (compiled : CompiledJobs) (items : List FragmentResult) : Except Failure (List FragmentResult) :=
  items.mapM (collect surroundings options workdir compiled)

/-- The result of a fragment depends on the files only through what paths lead to. -/
theorem collect_congr (same : surroundings.resolve = other.resolve) :
    collect surroundings options workdir compiled = collect other options workdir compiled := by
  funext item
  simp only [collect, judgeFragment, Verdict.judgeWhole_congr same]

/-- The results of fragments depend on the files only through what paths lead to. -/
theorem judgeAll_congr (same : surroundings.resolve = other.resolve) :
    judgeAll surroundings options workdir compiled items =
      judgeAll other options workdir compiled items := by
  rw [judgeAll, collect_congr same, judgeAll]

/-- What is found for a case depends on a table only through what is found in it. -/
theorem collectCase_congr_table (same : ∀ identity, compiled.lookup identity = compiled'.lookup identity)
    (key : String) (whole : Option (Compilation × List Verdict)) (testCase : TestCase) :
    collectCase compiled key whole testCase = collectCase compiled' key whole testCase := by
  simp only [collectCase, same]

/-- What is found for cases depends on a table only through what is found in it. -/
theorem collectCases_congr_table
    (same : ∀ identity, compiled.lookup identity = compiled'.lookup identity) (key : String)
    (whole : Option (Compilation × List Verdict)) (cases : List TestCase) :
    collectCases compiled key whole cases = collectCases compiled' key whole cases := by
  induction cases with
  | nil => rfl
  | cons testCase rest ih =>
    rw [collectCases, collectCases, collectCase_congr_table same, ih]

/-- The result of a fragment depends on a table only through what is found in it. -/
theorem collect_congr_table
    (same : ∀ identity, compiled.lookup identity = compiled'.lookup identity) :
    collect surroundings options workdir compiled =
      collect surroundings options workdir compiled' := by
  funext item
  simp only [collect, judgeFragment, same, collectCases_congr_table same]

/-- The results of fragments that were read are all that can be found, and they can. -/
theorem Loaded.judgeAll_eq_ok_iff (all : Loaded items)
    (done : CompiledAs expected (plannedJobs settings options items) compiled) :
    judgeAll surroundings options workdir compiled items = .ok results ↔
      List.Forall₂ (Collected surroundings options workdir (RanIn compiled) settings.outputDir)
        items results := by
  rw [judgeAll, Except.mapM_eq_ok_iff]
  exact List.forall₂_congr_of_mem fun item member result => all.collect_eq_ok_iff member done

/-! ## Telling and writing -/

/-- Tell an observer of results, numbered from `index` on. -/
def tellAll (observe : Observer σ) (total : Nat) (state : σ) (index : Nat) :
    List FragmentResult → Action σ
  | [] => return state
  | result :: rest => do
    let next ← observe state result index total
    tellAll observe total next (index + 1) rest

/-- Tell an observer of all results, and write the generated tests. -/
def announce (settings : Settings) (options : RunOptions) (observe : Observer σ) (state : σ)
    (results : List FragmentResult) : Action (List FragmentResult × σ) := do
  let last ← tellAll observe results.length state 1 results
  let written ← writeRequested settings options results
  return (written, last)

/-- A result with the place of its generated test. -/
def FragmentResult.withArtifact (outputDir : Path) (result : FragmentResult) : FragmentResult :=
  { result with artifact := some (Artifact.targetOf result outputDir) }

/-- The results that a run returns, once it has found them. -/
def returned (settings : Settings) (options : RunOptions) (results : List FragmentResult) :
    List FragmentResult :=
  if options.writesArtifacts settings then
    results.map (FragmentResult.withArtifact settings.outputDir)
  else results

/-- What a run returns was found, and its generated test noted if it was written. -/
theorem exists_of_mem_returned {result : FragmentResult}
    (member : result ∈ returned settings options results) :
    ∃ found ∈ results, result = found ∨ result = found.withArtifact settings.outputDir := by
  rw [returned] at member
  split at member
  · obtain ⟨found, listed, rfl⟩ := List.mem_map.mp member
    exact ⟨found, listed, .inr rfl⟩
  · exact ⟨result, member, .inl rfl⟩

/-- Writing the generated tests notes where they are. -/
theorem eq_of_writeArtifacts
    (succeeds : (writeArtifacts settings results).perform machine world = (.ok written, after)) :
    written = results.map (FragmentResult.withArtifact settings.outputDir) := by
  induction results generalizing written world with
  | nil =>
    cases succeeds
    rfl
  | cons result rest ih =>
    obtain ⟨first, between, one, more⟩ := Action.perform_bind_eq_ok_iff.mp succeeds
    obtain ⟨others, final, done, equal⟩ := Action.perform_bind_eq_ok_iff.mp more
    obtain ⟨-, _, -, noted⟩ := Action.perform_bind_eq_ok_iff.mp one
    obtain ⟨-, _, -, given⟩ := Action.perform_bind_eq_ok_iff.mp noted
    cases given
    cases equal
    rw [List.map_cons, ih done]
    rfl

/-- Writing the generated tests that are asked for gives results as a run returns them. -/
theorem eq_of_writeRequested
    (succeeds : (writeRequested settings options results).perform machine world =
      (.ok written, after)) : written = returned settings options results := by
  rw [writeRequested] at succeeds
  split at succeeds
  next writes => rw [returned, if_pos writes, eq_of_writeArtifacts succeeds]
  next skips =>
    cases succeeds
    rw [returned, if_neg skips]

/-- Announcing results gives them as a run returns them. -/
theorem eq_of_announce
    (succeeds : (announce settings options observe state results).perform machine world =
      (.ok (written, last), after)) : written = returned settings options results := by
  obtain ⟨told, between, -, rest⟩ := Action.perform_bind_eq_ok_iff.mp succeeds
  obtain ⟨found, final, wrote, equal⟩ := Action.perform_bind_eq_ok_iff.mp rest
  cases equal
  exact eq_of_writeRequested wrote

/-! ## Judging and telling in turn -/

/-- Judging fragments and telling of them in turn is judging all of them and then telling of the
results. -/
theorem collectAll_eq_ok_iff
    (quiet : ∀ state result index total, Action.KeepsPaths (observe state result index total))
    {total index : Nat} :
    (collectAll options workdir compiled observe total state index items).perform machine world =
        (.ok (results, last), after) ↔
      judgeAll ⟨world.tree, machine.here⟩ options workdir compiled items = .ok results ∧
        (tellAll observe total state index results).perform machine world = (.ok last, after) := by
  induction items generalizing results state index world with
  | nil =>
    rw [collectAll, judgeAll, List.mapM_nil]
    constructor
    · intro equal
      cases equal
      exact ⟨rfl, rfl⟩
    · rintro ⟨equal, told⟩
      cases equal
      cases told
      rfl
  | cons item rest ih =>
    rw [collectAll, Action.perform_bind_of_ok Action.perform_surroundings, judgeAll, List.mapM_cons,
      Except.bind_eq_ok_iff, Action.perform_bind_eq_ok_iff]
    simp only [Action.perform_lift, Prod.mk.injEq]
    -- Telling of the first result moves no file, so the others may be judged before it as well.
    constructor
    · rintro ⟨result, _, ⟨found, rfl⟩, told⟩
      obtain ⟨next, between, observed, more⟩ := Action.perform_bind_eq_ok_iff.mp told
      obtain ⟨⟨others, final⟩, _, collected, equal⟩ := Action.perform_bind_eq_ok_iff.mp more
      cases equal
      obtain ⟨judged, toldRest⟩ := ih.mp collected
      rw [judgeAll_congr ((quiet _ _ _ _).resolve_eq observed)] at judged
      refine ⟨⟨result, found, Except.bind_eq_ok_iff.mpr ⟨others, judged, rfl⟩⟩, ?_⟩
      exact Action.perform_bind_eq_ok_iff.mpr ⟨next, between, observed, toldRest⟩
    · rintro ⟨⟨result, found, judgedRest⟩, told⟩
      obtain ⟨others, judged, equal⟩ := Except.bind_eq_ok_iff.mp judgedRest
      cases equal
      obtain ⟨next, between, observed, toldRest⟩ := Action.perform_bind_eq_ok_iff.mp told
      have judgedLater : judgeAll ⟨between.tree, machine.here⟩ options workdir compiled rest =
          .ok others := by
        rw [judgeAll_congr ((quiet _ _ _ _).resolve_eq observed)]
        exact judged
      have collected := ih.mpr ⟨judgedLater, toldRest⟩
      refine ⟨result, world, ⟨found, rfl⟩, ?_⟩
      refine Action.perform_bind_eq_ok_iff.mpr ⟨next, between, observed, ?_⟩
      exact Action.perform_bind_eq_ok_iff.mpr ⟨(others, last), after, collected, rfl⟩

/-- Judging fragments, telling of them and writing tests is judging them all and then announcing the
results. -/
theorem settle_eq_ok_iff
    (quiet : ∀ state result index total, Action.KeepsPaths (observe state result index total)) :
    (settle settings options compiled observe state items).perform machine world =
        (.ok (written, last), after) ↔
      ∃ results,
        judgeAll ⟨world.tree, machine.here⟩ options settings.compiler.workdir compiled items =
            .ok results ∧
          (announce settings options observe state results).perform machine world =
            (.ok (written, last), after) := by
  rw [settle, Action.perform_bind_eq_ok_iff]
  constructor
  · rintro ⟨⟨results, final⟩, between, collected, rest⟩
    obtain ⟨judged, told⟩ := (collectAll_eq_ok_iff quiet).mp collected
    rw [List.Forall₂.length_eq (Except.mapM_eq_ok_iff.mp judged)] at told
    exact ⟨results, judged, Action.perform_bind_eq_ok_iff.mpr ⟨final, between, told, rest⟩⟩
  · rintro ⟨results, judged, announced⟩
    obtain ⟨final, between, told, rest⟩ := Action.perform_bind_eq_ok_iff.mp announced
    rw [← List.Forall₂.length_eq (Except.mapM_eq_ok_iff.mp judged)] at told
    exact ⟨(results, final), between, (collectAll_eq_ok_iff quiet).mpr ⟨judged, told⟩, rest⟩

/-- Whatever an observer does, each result is what is collected for its fragment. -/
theorem exists_collect_of_collectAll {total index : Nat}
    (succeeds : (collectAll options workdir compiled observe total state index items).perform machine
      world = (.ok (results, last), after)) :
    List.Forall₂ (fun item result => ∃ surroundings,
      collect surroundings options workdir compiled item = .ok result) items results := by
  induction items generalizing results state index world with
  | nil =>
    cases succeeds
    exact .nil
  | cons item rest ih =>
    rw [collectAll, Action.perform_bind_of_ok Action.perform_surroundings] at succeeds
    obtain ⟨result, _, one, told⟩ := Action.perform_bind_eq_ok_iff.mp succeeds
    rw [Action.perform_lift] at one
    obtain ⟨next, between, -, more⟩ := Action.perform_bind_eq_ok_iff.mp told
    obtain ⟨⟨others, final⟩, _, collected, equal⟩ := Action.perform_bind_eq_ok_iff.mp more
    cases equal
    exact .cons ⟨_, (Prod.mk.inj one).1⟩ (ih collected)

/-! ## Whole runs -/

/-- Once a run has been prepared, it returns just if all results are found and announced. -/
theorem runArranged_eq_ok_iff {find : Action Unit} {compile : Job → Action CompileOutput}
    {arrange : CompiledJobs → CompiledJobs} {paths : List Path} {ready : World}
    (quiet : ∀ state result index total, Action.KeepsPaths (observe state result index total))
    (prepared : (prepare settings options find compile paths).perform machine world =
      (.ok (items, compiled), ready)) {run : RunResult} :
    (runArranged settings options find compile arrange paths observe state).perform machine world =
        (.ok (run, last), after) ↔
      ∃ results,
        judgeAll ⟨ready.tree, machine.here⟩ options settings.compiler.workdir (arrange compiled)
            items = .ok results ∧
          ∃ written, (announce settings options observe state results).perform machine ready =
              (.ok (written, last), after) ∧
            ⟨written, .fraction (totalDuration compiled)⟩ = run := by
  rw [runArranged, Action.perform_bind_of_ok prepared, Action.perform_bind_eq_ok_iff]
  constructor
  · rintro ⟨⟨written, final⟩, between, settled, equal⟩
    cases equal
    obtain ⟨results, judged, announced⟩ := (settle_eq_ok_iff quiet).mp settled
    exact ⟨results, judged, written, announced, rfl⟩
  · rintro ⟨results, judged, written, announced, rfl⟩
    exact ⟨(written, last), after, (settle_eq_ok_iff quiet).mpr ⟨results, judged, announced⟩, rfl⟩

/-- A run that returns has been prepared. -/
theorem exists_prepare_of_runWith {find : Action Unit} {compile : Job → Action CompileOutput}
    {paths : List Path} {run : RunResult}
    (returns : (runWith settings options find compile paths observe state).perform machine world =
      (.ok (run, last), after)) :
    ∃ items compiled ready,
      (prepare settings options find compile paths).perform machine world =
        (.ok (items, compiled), ready) := by
  obtain ⟨⟨items, compiled⟩, ready, prepared, -⟩ := Action.perform_bind_eq_ok_iff.mp returns
  exact ⟨items, compiled, ready, prepared⟩

/-- Once a run in the order of the jobs has been prepared, it returns just if all results are found
and announced. -/
theorem runWith_eq_ok_iff {find : Action Unit} {compile : Job → Action CompileOutput}
    {paths : List Path} {ready : World}
    (quiet : ∀ state result index total, Action.KeepsPaths (observe state result index total))
    (prepared : (prepare settings options find compile paths).perform machine world =
      (.ok (items, compiled), ready)) {run : RunResult} :
    (runWith settings options find compile paths observe state).perform machine world =
        (.ok (run, last), after) ↔
      ∃ results,
        judgeAll ⟨ready.tree, machine.here⟩ options settings.compiler.workdir compiled items =
            .ok results ∧
          ∃ written, (announce settings options observe state results).perform machine ready =
              (.ok (written, last), after) ∧
            ⟨written, .fraction (totalDuration compiled)⟩ = run :=
  runArranged_eq_ok_iff quiet prepared

/-- Whatever an observer does, the results of a run that returns are those that are collected for
fragments that were prepared, with the places of the generated tests, and it took as long as the
compiler runs. -/
theorem exists_prepare_and_collected {find : Action Unit} {compile : Job → Action CompileOutput}
    {paths : List Path} {run : RunResult}
    (returns : (runWith settings options find compile paths observe state).perform machine world =
      (.ok (run, last), after)) :
    ∃ items compiled ready results,
      (prepare settings options find compile paths).perform machine world =
          (.ok (items, compiled), ready) ∧
        run = ⟨returned settings options results, .fraction (totalDuration compiled)⟩ ∧
        List.Forall₂ (fun item result => ∃ surroundings, Collected surroundings options
          settings.compiler.workdir (RanIn compiled) settings.outputDir item result) items results := by
  obtain ⟨⟨items, compiled⟩, ready, prepared, rest⟩ := Action.perform_bind_eq_ok_iff.mp returns
  obtain ⟨⟨written, final⟩, _, settled, equal⟩ := Action.perform_bind_eq_ok_iff.mp rest
  cases equal
  obtain ⟨⟨results, told⟩, between, collected, wrote⟩ := Action.perform_bind_eq_ok_iff.mp settled
  obtain ⟨found, _, requested, equal⟩ := Action.perform_bind_eq_ok_iff.mp wrote
  cases equal
  have all := Loaded.of_prepare prepared
  have done := CompiledAs.of_prepare gives_true prepared
  have each := (exists_collect_of_collectAll collected).imp_of_mem
    fun item member result ⟨surroundings, equal⟩ =>
      (⟨surroundings, (all.collect_eq_ok_iff member done).mp equal⟩ : ∃ surroundings,
        Collected surroundings options settings.compiler.workdir (RanIn compiled) settings.outputDir
          item result)
  refine ⟨items, compiled, ready, results, prepared, ?_, each⟩
  rw [eq_of_writeRequested requested]

/-- Each result of a run that returns was collected for a fragment that was prepared, and its generated
test noted if it was written. -/
theorem exists_collected_of_mem {find : Action Unit} {compile : Job → Action CompileOutput}
    {paths : List Path} {run : RunResult} {ready : World}
    (returns : (runWith settings options find compile paths observe state).perform machine world =
      (.ok (run, last), after))
    (prepared : (prepare settings options find compile paths).perform machine world =
      (.ok (items, compiled), ready)) {result : FragmentResult} (member : result ∈ run.fragments) :
    ∃ item ∈ items, ∃ found surroundings,
      Collected surroundings options settings.compiler.workdir (RanIn compiled) settings.outputDir
          item found ∧
        (result = found ∨ result = found.withArtifact settings.outputDir) := by
  obtain ⟨_, _, _, results, again, rfl, each⟩ := exists_prepare_and_collected returns
  cases prepared.symm.trans again
  obtain ⟨found, listed, same⟩ := exists_of_mem_returned member
  obtain ⟨item, present, surroundings, collected⟩ := each.exists_of_mem_right listed
  exact ⟨item, present, found, surroundings, collected, same⟩

/-- The results of a run that returns are those that are collected for fragments that were read. -/
theorem exists_collected_of_runWith {find : Action Unit} {compile : Job → Action CompileOutput}
    {paths : List Path} {run : RunResult}
    (returns : (runWith settings options find compile paths observe state).perform machine world =
      (.ok (run, last), after)) :
    ∃ items compiled results, Loaded items ∧ run.fragments = returned settings options results ∧
      List.Forall₂ (fun item result => ∃ surroundings, Collected surroundings options
        settings.compiler.workdir (RanIn compiled) settings.outputDir item result) items results := by
  obtain ⟨items, compiled, ready, results, prepared, rfl, each⟩ :=
    exists_prepare_and_collected returns
  exact ⟨items, compiled, results, .of_prepare prepared, rfl, each⟩

end

/-! ## Telling nobody -/

/-- The observer that does nothing. -/
def Observer.silent : Observer Unit := fun _ _ _ _ => return ()

/-- Doing nothing moves no file. -/
theorem Observer.keepsPaths_silent (state : Unit) (result : FragmentResult) (index total : Nat) :
    Action.KeepsPaths (Observer.silent state result index total) :=
  .pure ()

/-- Nobody is told of results without any effect. -/
theorem perform_tellAll_silent (machine : Machine) (world : World) (total index : Nat)
    (results : List FragmentResult) :
    (tellAll Observer.silent total () index results).perform machine world = (.ok (), world) := by
  induction results generalizing index with
  | nil => rfl
  | cons result rest ih => exact (Action.perform_bind_of_ok rfl _).trans (ih (index + 1))

/-- Announcing results to nobody, without writing tests, has no effect. -/
theorem perform_announce_silent {settings : Settings} {options : RunOptions}
    (unwritten : options.writesArtifacts settings = false) (machine : Machine) (world : World)
    (results : List FragmentResult) :
    (announce settings options Observer.silent () results).perform machine world =
      (.ok (results, ()), world) := by
  rw [announce, Action.perform_bind_of_ok (perform_tellAll_silent machine world _ 1 results),
    writeRequested, unwritten]
  rfl

/-! ## A sample

A world with one fragment, whose two cases expect an error each, as it is read. -/

namespace Sample

/-- The text of the fragment: two lines with a marker each. -/
def text : String := "x // expected-error {{foo}}\ny // expected-error {{bar}}\n"

/-- Where the fragment is. -/
def source : Path := .ofParts ["a.nc"]

/-- The tree that holds nothing but the fragment. -/
def tree : Tree := ⟨[(["a.nc"], .file (Text.encodeUtf8 text) false)]⟩

/-- A case that expects an error on its line. -/
def caseAt (name : String) (line : Int) (message : String) : TestCase :=
  ⟨name, ⟨line, line⟩, [⟨name, message, false, some line, .error⟩], true, none⟩

/-- The fragment. -/
def fragment : Fragment :=
  ⟨source, text, "inline", [caseAt "line_1" 1 "foo", caseAt "line_2" 2 "bar"]⟩

/-- The result of reading the fragment. -/
def item : FragmentResult := .ofFragment source "a.nc" fragment

theorem isName_source : IsName "a.nc" := ⟨by decide, by decide, by decide, by decide⟩

/-- The path of the sample is plain. -/
theorem isPlain_source : source.IsPlain := isName_source.isPlain_ofParts

/-- There is no link in the tree of the sample. -/
theorem unlinked_tree (place : Place) : tree.Unlinked place := by
  refine Tree.unlinked_of_linkless (fun entry member => ?_) place
  rw [List.mem_singleton.mp member]
  exact nofun

theorem resolve_source : Surroundings.resolve ⟨tree, []⟩ source = .ok source :=
  Surroundings.resolve_eq_self isPlain_source (unlinked_tree _)

theorem resolve_root : Surroundings.resolve ⟨tree, []⟩ (.ofParts []) = .ok (.ofParts []) :=
  Surroundings.resolve_eq_self Path.isPlain_root (unlinked_tree _)

theorem fragmentKey_source :
    Surroundings.fragmentKey ⟨tree, []⟩ source (some (.ofParts [])) = .ok "a.nc" := by
  have below : source.below? (.ofParts []) = some ⟨0, ["a.nc"]⟩ := by decide
  have key : keyOfParts ["a.nc"] = "a.nc" := keyOfParts_singleton (by simp)
  simp only [Surroundings.fragmentKey, resolve_source, resolve_root, bind, Except.bind, below, key]
  rfl

/-- There is no carriage return in the text of the fragment. -/
theorem bare_text : '\r' ∉ text.toList := by
  rw [text]
  decide

theorem readText_source : Fragment.readText tree [] source = .ok text :=
  Fragment.readText_of_file isPlain_source (by decide) (Path.isShort_ofParts (by decide))
    (tree.hasAbove_singleton _) rfl bare_text

/-- The text of the fragment has inline markers. -/
theorem select_text : Registry.standard.select text = .ok Inline.dialect := by
  have ordered : Registry.standard.ordered = [Guarded.dialect, Inline.dialect] := by cbv
  have undetected : Guarded.dialect.detects text = .ok false :=
    Except.eq_ok_of_toOption (by decide)
  rw [Registry.select, ordered, Registry.firstDetecting, undetected]
  rfl

theorem load_source : Fragment.load .standard tree [] source = .ok fragment := by
  have parsed : Inline.dialect.parse source text = .ok fragment.cases :=
    Except.eq_ok_of_toOption (by decide +kernel)
  have distinct : checkNames source [] fragment.cases = .ok () :=
    Except.eq_ok_of_toOption (by decide)
  rw [Fragment.load, readText_source]
  simp only [bind, Except.bind, Fragment.parse, select_text, parsed, distinct]
  rfl

/-- A machine on which no program prints anything. -/
def machine : Machine := ⟨[], [], [], [], "", fun _ => ⟨[], some 0, .zero⟩⟩

/-- A world with the tree and a terminal. -/
def world : World := ⟨tree, .standard, true, .blank true, .bare⟩

/-- Settings that name the fragment. -/
def settings : Settings where
  compiler := ⟨"cc", [], none, [], [], false, .syntaxOnly, false, defaultTimeout, [], none⟩
  outputDir := .ofParts ["out"]
  fragments := [source]
  baseDir := .ofParts []
  jobs := 1
  artifact := ⟨true, "", none⟩
  suffixes := []

/-- Reading the fragments of the settings gives the one result. -/
theorem loadFragments_settings {found : World} (files : found.tree = tree)
    (dialects : found.registry = .standard) :
    ∃ errors, (loadFragments settings.baseDir settings.fragments).perform machine found =
      (.ok [item], found.withErrors errors) := by
  have loaded : loadedFrom .standard ⟨tree, []⟩ (.ofParts []) [] [source] = .ok [item] := by
    rw [loadedFrom, fragmentKey_source, load_source]
    rfl
  obtain ⟨errors, performed⟩ := loadFrom_perform machine found settings.baseDir [] [source]
  rw [files, dialects] at performed
  exact ⟨errors, performed.trans (congrArg (·, found.withErrors errors) loaded)⟩

/-- What the compiler says of the sample: it complains of the first line only. -/
def output : CompileOutput :=
  ⟨["cc"], some 1, "a.nc:1: error: foo\n", .zero, [⟨"a.nc", 1, none, .error, "foo"⟩], false, false⟩

/-- A compiler that says the same of every job. -/
def compile (_ : Job) : Action CompileOutput := return output

theorem answers_compile : Answers machine compile fun _ => output := by
  intro job world found after succeeds
  cases succeeds
  rfl

/-- What is compiled for the sample if some case is selected. -/
def compiled : CompiledJobs := [(("a.nc", none), ⟨0, output⟩)]

/-- The job that the sample needs. -/
def job : Job := ⟨fragment, "a.nc", settings.outputDir, none⟩

/-- The sample needs its job if some case is chosen. -/
theorem plannedJobs_item {options : RunOptions} (chosen : options.chosenCases fragment ≠ []) :
    plannedJobs settings options [item] = [job] := by
  rw [plannedJobs, List.flatMap_singleton, RunOptions.jobsOf_of_together rfl rfl, if_neg chosen]
  rfl

/-- The sample is prepared if some case is chosen and there are workers. -/
theorem prepare_settings {options : RunOptions} (workers : 0 < options.jobsFor settings)
    (chosen : options.chosenCases fragment ≠ []) {found : World} (files : found.tree = tree)
    (dialects : found.registry = .standard) :
    ∃ errors,
      (prepare settings options (return ()) compile settings.fragments).perform machine found =
        (.ok ([item], compiled), found.withErrors errors) := by
  obtain ⟨errors, loaded⟩ := loadFragments_settings files dialects
  obtain ⟨later, both⟩ := compileJobs_eq_ok_iff compile (options.jobsFor settings) [job] machine
    (found.withErrors errors)
  refine ⟨later, prepare_eq_ok_iff.mpr ⟨_, loaded, ?_⟩⟩
  have needed : ¬ ([job].isEmpty = true) := Bool.false_ne_true
  rw [plannedJobs_item chosen, compilePlanned, if_neg needed,
    Action.perform_bind_of_ok (Action.perform_pure ())]
  exact (both compiled _).mpr ⟨workers, rfl⟩

/-- The verdict on the first case: what it expects was said. -/
def firstVerdict : Verdict :=
  ⟨caseAt "line_1" 1 "foo", .passed,
    [(⟨"line_1", "foo", false, some 1, .error⟩, ⟨"a.nc", 1, none, .error, "foo"⟩)], [], [], []⟩

/-- The verdict on the second case: what it expects was not said. -/
def secondVerdict : Verdict :=
  ⟨caseAt "line_2" 2 "bar", .expectationMismatch, [],
    [⟨"line_2", "bar", false, some 2, .error⟩], [], []⟩

/-- The file that the compiler names is the one of the sample. -/
theorem sameFile_source : Surroundings.sameFile ⟨tree, []⟩ "a.nc" source none = .ok true := by
  have name : Path.ofString ("a.nc".map fun c => if c = '\\' then '/' else c) = ⟨0, ["a.nc"]⟩ := by
    decide_cbv
  have relative : "a.nc".startsWith "/" = false := by decide_cbv
  simp only [Surroundings.sameFile, name, relative, resolve_source]
  rfl

/-- The verdicts on the sample. -/
theorem judgeWhole_fragment :
    Verdict.judgeWhole ⟨tree, []⟩ fragment output none = .ok [firstVerdict, secondVerdict] := by
  have here : Verdict.localDiagnostics ⟨tree, []⟩ fragment none output.diagnostics =
      .ok output.diagnostics := by
    change (do
      let isLocal ← Surroundings.sameFile ⟨tree, []⟩ "a.nc" source none
      let others ← Except.ok []
      return if isLocal then _ :: others else others) = _
    rw [sameFile_source]
    rfl
  have stray : Verdict.strayErrors output.diagnostics
      (fragment.enabledCases.flatMap (·.expectations)) output.errors = .ok [] :=
    Except.eq_ok_of_toOption (by decide)
  have each : fragment.enabledCases.mapM (Verdict.judgeCase output.diagnostics []) =
      .ok [firstVerdict, secondVerdict] :=
    Except.eq_ok_of_toOption (by decide)
  have unimposed : Verdict.imposedStatus? output = none := rfl
  have complained : ¬ ((output.returnCode = some 0 && output.diagnostics.isEmpty) = true) := by
    decide
  simp only [Verdict.judgeWhole, unimposed, if_neg complained, here, bind, Except.bind, stray]
  exact each

/-- There is an own verdict on each case of the sample. -/
theorem exists_own {testCase : TestCase} (member : testCase ∈ fragment.cases) :
    ∃ verdict, OwnVerdict ⟨tree, []⟩ none fragment testCase output verdict := by
  rcases List.mem_pair.mp member with rfl | rfl
  · exact ⟨firstVerdict, .together rfl judgeWhole_fragment List.mem_cons_self rfl⟩
  · exact ⟨secondVerdict, .together rfl judgeWhole_fragment
      (List.mem_cons_of_mem _ List.mem_cons_self) rfl⟩

/-- A run on the sample that nobody is told of returns. -/
theorem exists_runWith {options : RunOptions} (workers : 0 < options.jobsFor settings)
    (chosen : options.chosenCases fragment ≠ [])
    (unwritten : options.writesArtifacts settings = false) :
    ∃ run after,
      (runWith settings options (return ()) compile settings.fragments Observer.silent ()).perform
        machine world = (.ok (run, ()), after) := by
  have files : world.tree = tree := rfl
  obtain ⟨errors, prepared⟩ := prepare_settings workers chosen files rfl
  have all := Loaded.of_prepare prepared
  have done := CompiledAs.of_prepare answers_compile prepared
  have each : ∀ found ∈ [item], ∃ result,
      Collected ⟨tree, []⟩ options none (RanIn compiled) settings.outputDir found result := by
    intro found member
    refine done.exists_collected all member fun fragment holds testCase chosen => ?_
    rw [List.mem_singleton.mp member] at holds
    cases holds
    exact exists_own (RunOptions.mem_chosenCases.mp chosen).1
  obtain ⟨results, found⟩ := List.exists_forall₂ each
  have judged := (all.judgeAll_eq_ok_iff done).mpr found
  exact ⟨_, _, (runWith_eq_ok_iff Observer.keepsPaths_silent prepared).mpr
    ⟨results, judged, results, perform_announce_silent unwritten machine _ results, rfl⟩⟩

end Sample

end NegativeCompile
