import NegativeCompile.Proofs.Run.Loaded

/-! # What is planned

The planned jobs are the own jobs of the selected enabled cases (`mem_plannedJobs`): a case of a
guarded fragment has a job to itself, and all cases of any other fragment share one. What tells jobs
from others really does (`Loaded.eq_of_identity`), and no job is planned twice
(`Loaded.nodup_identities`). -/

namespace NegativeCompile

open Files

variable {settings : Settings} {options : RunOptions} {outputDir : Path} {job other : Job}
variable {item : FragmentResult} {items : List FragmentResult} {fragment : Fragment}
variable {testCase : TestCase}

/-! ## Own jobs -/

/-- The job by whose output a case is judged: one for the case alone if its fragment is guarded,
otherwise the one for the whole fragment. -/
def Job.own (fragment : Fragment) (key : String) (outputDir : Path) (testCase : TestCase) : Job :=
  ⟨fragment, key, outputDir, if fragment.isGuarded then some testCase else none⟩

/-- What tells the own job of a case of a guarded fragment from others. -/
theorem Job.identity_own_of_guarded (guarded : fragment.isGuarded = true) (key : String)
    (outputDir : Path) (testCase : TestCase) :
    (Job.own fragment key outputDir testCase).identity = (key, some testCase.name) := by
  rw [Job.own, if_pos guarded]
  rfl

/-- What tells the own job of a case of any other fragment from others. -/
theorem Job.identity_own_of_together (together : fragment.isGuarded = false) (key : String)
    (outputDir : Path) (testCase : TestCase) :
    (Job.own fragment key outputDir testCase).identity = (key, none) := by
  rw [Job.own, together]
  rfl

/-- The cases of a fragment that are both selected and enabled. -/
def RunOptions.chosenCases (options : RunOptions) (fragment : Fragment) : List TestCase :=
  fragment.enabledCases.filter options.selects

theorem RunOptions.mem_chosenCases :
    testCase ∈ options.chosenCases fragment ↔
      testCase ∈ fragment.cases ∧ testCase.enabled ∧ options.selects testCase := by
  rw [chosenCases, Fragment.enabledCases, List.mem_filter, List.mem_filter, and_assoc]

/-- A selected case that is enabled is chosen. -/
theorem RunOptions.mem_chosenCases_of_selected (enabled : testCase.enabled = true)
    (listed : testCase ∈ fragment.cases.filter options.selects) :
    testCase ∈ options.chosenCases fragment := by
  obtain ⟨present, selected⟩ := List.mem_filter.mp listed
  exact mem_chosenCases.mpr ⟨present, enabled, selected⟩

/-! ## The jobs of one fragment -/

/-- A fragment that could not be read needs no job. -/
theorem RunOptions.jobsOf_of_error (holds : item.fragment = none) :
    options.jobsOf outputDir item = [] := by
  rw [jobsOf, holds]

/-- A fragment needs no job if none of its cases is chosen. -/
theorem RunOptions.jobsOf_of_nothing (holds : item.fragment = some fragment)
    (nothing : options.chosenCases fragment = []) : options.jobsOf outputDir item = [] := by
  have unselected : fragment.enabledCases.any options.selects = false := by
    rw [List.any_eq_false]
    exact List.filter_eq_nil_iff.mp nothing
  rw [jobsOf, holds]
  simp only [unselected, Bool.false_eq_true, ↓reduceIte]

/-- If some case is chosen, the jobs that a fragment needs are those planned jobs that are for the
whole fragment or for a selected case. -/
theorem RunOptions.jobsOf_of_something (holds : item.fragment = some fragment)
    (something : options.chosenCases fragment ≠ []) :
    options.jobsOf outputDir item =
      if fragment.isGuarded then
        (options.chosenCases fragment).map fun testCase =>
          ⟨fragment, item.key, outputDir, some testCase⟩
      else [⟨fragment, item.key, outputDir, none⟩] := by
  obtain ⟨testCase, chosen⟩ := List.exists_mem_of_ne_nil _ something
  obtain ⟨enabled, selected⟩ := List.mem_filter.mp chosen
  have selectedAny : fragment.enabledCases.any options.selects = true :=
    List.any_eq_true.mpr ⟨testCase, enabled, selected⟩
  have enabledAny : fragment.enabledCases.isEmpty = false :=
    List.isEmpty_eq_false_iff.mpr (List.ne_nil_of_mem enabled)
  rw [jobsOf, holds]
  simp only [selectedAny, ↓reduceIte, Job.plan, enabledAny, Bool.false_eq_true]
  split
  · rw [List.filter_map]
    rfl
  · rfl

/-- A guarded fragment needs one job for each chosen case. -/
theorem RunOptions.jobsOf_of_guarded (holds : item.fragment = some fragment)
    (guarded : fragment.isGuarded = true) :
    options.jobsOf outputDir item =
      (options.chosenCases fragment).map (Job.own fragment item.key outputDir) := by
  by_cases nothing : options.chosenCases fragment = []
  · rw [jobsOf_of_nothing holds nothing, nothing, List.map_nil]
  · rw [jobsOf_of_something holds nothing, if_pos guarded]
    refine List.map_congr_left fun testCase _ => ?_
    rw [Job.own, if_pos guarded]

/-- Any other fragment needs one job if some case is chosen. -/
theorem RunOptions.jobsOf_of_together (holds : item.fragment = some fragment)
    (together : fragment.isGuarded = false) :
    options.jobsOf outputDir item =
      if options.chosenCases fragment = [] then [] else [⟨fragment, item.key, outputDir, none⟩] := by
  by_cases nothing : options.chosenCases fragment = []
  · rw [jobsOf_of_nothing holds nothing, if_pos nothing]
  · rw [jobsOf_of_something holds nothing, together, if_neg nothing]
    rfl

/-- The jobs that a fragment needs are the own jobs of its chosen cases. -/
theorem RunOptions.mem_jobsOf :
    job ∈ options.jobsOf outputDir item ↔
      ∃ fragment, item.fragment = some fragment ∧
        ∃ testCase ∈ options.chosenCases fragment,
          Job.own fragment item.key outputDir testCase = job := by
  cases holds : item.fragment with
  | none => simp [jobsOf_of_error holds]
  | some fragment =>
    simp only [Option.some.injEq, exists_eq_left']
    cases guarded : fragment.isGuarded with
    | true => rw [jobsOf_of_guarded holds guarded, List.mem_map]
    | false =>
      -- The job for the whole fragment is the own job of each of its cases.
      have own : ∀ testCase, Job.own fragment item.key outputDir testCase =
          ⟨fragment, item.key, outputDir, none⟩ := by
        intro testCase
        rw [Job.own, guarded]
        rfl
      simp only [jobsOf_of_together holds guarded, own]
      by_cases nothing : options.chosenCases fragment = []
      · simp [nothing]
      · obtain ⟨testCase, member⟩ := List.exists_mem_of_ne_nil _ nothing
        rw [if_neg nothing, List.mem_singleton]
        exact ⟨fun equal => ⟨testCase, member, equal.symm⟩, fun ⟨_, _, equal⟩ => equal.symm⟩

/-- A job that a fragment needs has the key of the fragment. -/
theorem RunOptions.key_of_mem_jobsOf (planned : job ∈ options.jobsOf outputDir item) :
    job.key = item.key := by
  obtain ⟨fragment, -, testCase, -, rfl⟩ := mem_jobsOf.mp planned
  rfl

/-- The jobs that a fragment needs are told from each other if the names of its cases are. -/
theorem RunOptions.nodup_identities_jobsOf
    (distinct : ∀ fragment, item.fragment = some fragment → (fragment.cases.map (·.name)).Nodup) :
    ((options.jobsOf outputDir item).map Job.identity).Nodup := by
  cases holds : item.fragment with
  | none => simp [jobsOf_of_error holds]
  | some fragment =>
    cases guarded : fragment.isGuarded with
    | true =>
      have chosen : (options.chosenCases fragment).Sublist fragment.cases :=
        List.filter_sublist.trans List.filter_sublist
      have names := (distinct fragment holds).sublist (chosen.map (·.name))
      have keyed := names.map fun first second (equal : (item.key, some first) =
        (item.key, some second)) => Option.some.inj (Prod.mk.inj equal).2
      rw [jobsOf_of_guarded holds guarded, List.map_map]
      convert keyed using 1
      rw [List.map_map]
      refine List.map_congr_left fun testCase _ => ?_
      simp [Job.own, Job.identity, guarded]
    | false =>
      rw [jobsOf_of_together holds guarded]
      split
      · exact List.nodup_nil
      · exact List.nodup_singleton _

/-! ## The jobs of a run -/

/-- The jobs of a run are the own jobs of the chosen cases of all fragments. -/
theorem mem_plannedJobs :
    job ∈ plannedJobs settings options items ↔
      ∃ item ∈ items, ∃ fragment, item.fragment = some fragment ∧
        ∃ testCase ∈ options.chosenCases fragment,
          Job.own fragment item.key settings.outputDir testCase = job := by
  simp only [plannedJobs, List.mem_flatMap, RunOptions.mem_jobsOf]

/-- The own job of a chosen case is planned. -/
theorem own_mem_plannedJobs (settings : Settings) (member : item ∈ items)
    (holds : item.fragment = some fragment) (chosen : testCase ∈ options.chosenCases fragment) :
    Job.own fragment item.key settings.outputDir testCase ∈ plannedJobs settings options items :=
  mem_plannedJobs.mpr ⟨item, member, fragment, holds, testCase, chosen, rfl⟩

/-- Jobs of a run that have one key are the own jobs of cases of one fragment. -/
theorem Loaded.exists_own_of_key (all : Loaded items)
    (planned : job ∈ plannedJobs settings options items)
    (also : other ∈ plannedJobs settings options items) (sameKey : job.key = other.key) :
    ∃ item ∈ items, ∃ fragment, item.fragment = some fragment ∧
      ∃ testCase ∈ options.chosenCases fragment, ∃ further ∈ options.chosenCases fragment,
        Job.own fragment item.key settings.outputDir testCase = job ∧
          Job.own fragment item.key settings.outputDir further = other := by
  obtain ⟨item, member, fragment, holds, testCase, chosen, rfl⟩ := mem_plannedJobs.mp planned
  obtain ⟨again, member', fragment', holds', further, chosen', rfl⟩ := mem_plannedJobs.mp also
  have equal : item = again := all.eq_of_key item member again member' sameKey
  subst equal
  obtain rfl : fragment = fragment' := Option.some.inj (holds.symm.trans holds')
  exact ⟨item, member, fragment, holds, testCase, chosen, further, chosen', rfl, rfl⟩

/-- What tells jobs of a run from others determines the job. -/
theorem Loaded.eq_of_identity (all : Loaded items) (planned : job ∈ plannedJobs settings options items)
    (also : other ∈ plannedJobs settings options items) (same : job.identity = other.identity) :
    job = other := by
  -- Equal keys mean the same fragment, and equal names then mean the same case.
  obtain ⟨sameKey, sameName⟩ := Prod.mk.inj same
  obtain ⟨item, member, fragment, holds, testCase, chosen, testCase', chosen', rfl, rfl⟩ :=
    all.exists_own_of_key planned also sameKey
  cases guarded : fragment.isGuarded with
  | false => simp [Job.own, guarded]
  | true =>
    have sameCase : testCase.name = testCase'.name := by
      simpa [Job.own, guarded] using sameName
    have distinct := all.nodup_names item member fragment holds
    rw [List.inj_on_of_nodup_map distinct (RunOptions.mem_chosenCases.mp chosen).1
      (RunOptions.mem_chosenCases.mp chosen').1 sameCase]

/-- No job of a run is planned twice, not even under another case, if keys are distinct. -/
theorem Loaded.nodup_identities (all : Loaded items) (keys : (items.map (·.key)).Nodup) :
    ((plannedJobs settings options items).map Job.identity).Nodup := by
  -- Within a fragment the names of cases differ, between fragments the keys do.
  rw [plannedJobs, List.map_flatMap, List.nodup_flatMap]
  constructor
  · intro item member
    exact RunOptions.nodup_identities_jobsOf (all.nodup_names item member)
  · refine (List.pairwise_map.mp keys).imp fun {item other} differ identity here there => ?_
    obtain ⟨job, planned, rfl⟩ := List.mem_map.mp here
    obtain ⟨again, also, same⟩ := List.mem_map.mp there
    have sameKey := (Prod.mk.inj same).1
    rw [RunOptions.key_of_mem_jobsOf planned, RunOptions.key_of_mem_jobsOf also] at sameKey
    exact differ sameKey.symm

end NegativeCompile
