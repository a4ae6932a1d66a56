import NegativeCompile.Proofs.Run.Judging

/-! # What is collected

The result of a case that is disabled says so, and the result of any other case holds its own
verdict (`ResultOf`). A fragment is given one result for each of its selected cases, in source order
(`Collected`). This is all that collecting results does: no case is left out for want of a compiler
run, since the jobs that are planned are those that are looked for (`collect_eq_ok_iff`). -/

namespace NegativeCompile

open Files

variable {surroundings other : Surroundings} {settings : Settings} {options : RunOptions}
variable {workdir : Option Path} {outputDir : Path} {key : String} {fragment : Fragment}
variable {item : FragmentResult} {items : List FragmentResult} {testCase : TestCase}
variable {compiled : CompiledJobs} {compilation : Compilation}
variable {verdict : Verdict} {verdicts : List Verdict}
variable {gave gave' : Job → Compilation → Prop} {expected : Job → CompileOutput → Prop}

/-! ## Results -/

/-- A compiler run of a job gave what the compiler gives for the job. -/
def RanAs (outputOf : Job → CompileOutput) (job : Job) (compilation : Compilation) : Prop :=
  compilation.output = outputOf job

/-- The compiler run of a job is the one that a table holds for it. -/
def RanIn (compiled : CompiledJobs) (job : Job) (compilation : Compilation) : Prop :=
  compiled.lookup job.identity = some compilation

/-- The result of a case, given what the compiler runs of jobs are. -/
inductive ResultOf (surroundings : Surroundings) (workdir : Option Path)
    (gave : Job → Compilation → Prop) (outputDir : Path) (key : String) (fragment : Fragment)
    (testCase : TestCase) : CaseResult → Prop where
  /-- A disabled case is skipped. -/
  | skipped (disabled : testCase.enabled = false) :
      ResultOf surroundings workdir gave outputDir key fragment testCase (.ofDisabled testCase)
  /-- An enabled case is judged by the compiler run of its own job. -/
  | judged {verdict : Verdict} {compilation : Compilation} (enabled : testCase.enabled = true)
      (ran : gave (Job.own fragment key outputDir testCase) compilation)
      (own : OwnVerdict surroundings workdir fragment testCase compilation.output verdict) :
      ResultOf surroundings workdir gave outputDir key fragment testCase
        (.ofVerdict verdict compilation)

/-- The result of a fragment, given what the compiler runs of jobs are: it holds one result for each
selected case. -/
inductive Collected (surroundings : Surroundings) (options : RunOptions) (workdir : Option Path)
    (gave : Job → Compilation → Prop) (outputDir : Path) (item : FragmentResult) :
    FragmentResult → Prop where
  /-- A fragment that could not be read has no results of cases. -/
  | unread (holds : item.fragment = none) :
      Collected surroundings options workdir gave outputDir item item
  /-- A fragment that was read has a result for each of its selected cases. -/
  | read {fragment : Fragment} {cases : List CaseResult} (holds : item.fragment = some fragment)
      (each : List.Forall₂ (ResultOf surroundings workdir gave outputDir item.key fragment)
        (fragment.cases.filter options.selects) cases) :
      Collected surroundings options workdir gave outputDir item { item with cases := cases }

namespace ResultOf

/-- The only result of a disabled case says that it is disabled. -/
theorem of_disabled_iff (disabled : testCase.enabled = false) {result : CaseResult} :
    ResultOf surroundings workdir gave outputDir key fragment testCase result ↔
      result = .ofDisabled testCase := by
  constructor
  · intro found
    cases found with
    | skipped => rfl
    | judged enabled => rw [disabled] at enabled; cases enabled
  · rintro rfl
    exact .skipped disabled

/-- A result of an enabled case rests on the compiler run of its own job. -/
theorem of_enabled_iff (enabled : testCase.enabled = true) {result : CaseResult} :
    ResultOf surroundings workdir gave outputDir key fragment testCase result ↔
      ∃ compilation, gave (Job.own fragment key outputDir testCase) compilation ∧
        ∃ verdict, OwnVerdict surroundings workdir fragment testCase compilation.output verdict ∧
          result = .ofVerdict verdict compilation := by
  constructor
  · intro found
    cases found with
    | skipped disabled => rw [disabled] at enabled; cases enabled
    | judged _ ran own => exact ⟨_, ran, _, own, rfl⟩
  · rintro ⟨compilation, ran, verdict, own, rfl⟩
    exact .judged enabled ran own

/-- A result of a case is about it. -/
theorem testCase_eq {result : CaseResult}
    (found : ResultOf surroundings workdir gave outputDir key fragment testCase result) :
    result.testCase = testCase := by
  cases found with
  | skipped => rfl
  | judged _ _ own => exact own.isOn.testCase_eq

/-- What is known of compiler runs may be replaced by what follows from it. -/
theorem mono (follows : testCase.enabled = true → ∀ compilation,
      gave (Job.own fragment key outputDir testCase) compilation →
        gave' (Job.own fragment key outputDir testCase) compilation) {result : CaseResult}
    (found : ResultOf surroundings workdir gave outputDir key fragment testCase result) :
    ResultOf surroundings workdir gave' outputDir key fragment testCase result := by
  cases found with
  | skipped disabled => exact .skipped disabled
  | judged enabled ran own => exact .judged enabled (follows enabled _ ran) own

/-- A case does not fail just if it passes by the output of its own job or is disabled. -/
theorem failed_eq_false_iff {outputOf : Job → CompileOutput}
    (distinct : (fragment.cases.map (·.name)).Nodup) {result : CaseResult}
    (found : ResultOf surroundings workdir (RanAs outputOf) outputDir key fragment testCase
      result) :
    result.failed = false ↔ (testCase.enabled = true →
      Passes surroundings workdir fragment testCase
        (outputOf (Job.own fragment key outputDir testCase))) := by
  cases found with
  | skipped disabled =>
    refine iff_of_true rfl fun enabled => ?_
    rw [disabled] at enabled
    cases enabled
  | judged enabled ran own =>
    rw [RanAs] at ran
    rw [ran] at own
    constructor
    · intro fine _
      refine ⟨_, own, own.isOn.decided.resolve_right ?_⟩
      rw [Bool.not_eq_true]
      exact fine
    · intro passes
      obtain ⟨verdict, also, passed⟩ := passes enabled
      rw [CaseResult.failed, CaseResult.ofVerdict, own.unique distinct also, passed]
      rfl

/-- Results of cases are about them, in the same order. -/
theorem map_testCase_eq {cases : List TestCase} {results : List CaseResult}
    (each : List.Forall₂ (ResultOf surroundings workdir gave outputDir key fragment) cases results) :
    results.map (·.testCase) = cases := by
  induction each with
  | nil => rfl
  | cons head _ ih => rw [List.map_cons, head.testCase_eq, ih]

end ResultOf

namespace Collected

/-- The only result of a fragment that could not be read is the one it has. -/
theorem unread_iff (holds : item.fragment = none) {result : FragmentResult} :
    Collected surroundings options workdir gave outputDir item result ↔ result = item := by
  constructor
  · intro collected
    cases collected with
    | unread => rfl
    | read holds' => rw [holds] at holds'; cases holds'
  · rintro rfl
    exact .unread holds

/-- A result of a fragment that was read rests on results of its selected cases. -/
theorem read_iff (holds : item.fragment = some fragment) {result : FragmentResult} :
    Collected surroundings options workdir gave outputDir item result ↔
      ∃ cases, List.Forall₂ (ResultOf surroundings workdir gave outputDir item.key fragment)
          (fragment.cases.filter options.selects) cases ∧
        { item with cases := cases } = result := by
  constructor
  · intro collected
    cases collected with
    | unread holds' => rw [holds] at holds'; cases holds'
    | read holds' each =>
      cases Option.some.inj (holds.symm.trans holds')
      exact ⟨_, each, rfl⟩
  · rintro ⟨cases, each, rfl⟩
    exact .read holds each

/-- What is known of compiler runs may be replaced by what follows from it. -/
theorem mono (follows : ∀ fragment, item.fragment = some fragment →
      ∀ testCase ∈ options.chosenCases fragment, ∀ compilation,
        gave (Job.own fragment item.key outputDir testCase) compilation →
          gave' (Job.own fragment item.key outputDir testCase) compilation)
    {result : FragmentResult}
    (collected : Collected surroundings options workdir gave outputDir item result) :
    Collected surroundings options workdir gave' outputDir item result := by
  cases collected with
  | unread holds => exact .unread holds
  | read holds each =>
    refine .read holds (each.imp_of_mem fun testCase listed _ found => ?_)
    exact found.mono fun enabled =>
      follows _ holds testCase (RunOptions.mem_chosenCases_of_selected enabled listed)

/-- There is an own verdict on each chosen case of a fragment that has a result. -/
theorem exists_own {outputOf : Job → CompileOutput} {result : FragmentResult}
    (collected : Collected surroundings options workdir (RanAs outputOf) outputDir item result)
    (holds : item.fragment = some fragment) (chosen : testCase ∈ options.chosenCases fragment) :
    ∃ verdict, OwnVerdict surroundings workdir fragment testCase
      (outputOf (Job.own fragment item.key outputDir testCase)) verdict := by
  obtain ⟨present, enabled, selected⟩ := RunOptions.mem_chosenCases.mp chosen
  obtain ⟨cases, each, -⟩ := (read_iff holds).mp collected
  obtain ⟨one, -, found⟩ := each.exists_of_mem_left (List.mem_filter.mpr ⟨present, selected⟩)
  obtain ⟨compilation, ran, verdict, own, -⟩ := (ResultOf.of_enabled_iff enabled).mp found
  rw [RanAs] at ran
  exact ⟨verdict, ran ▸ own⟩

/-- A fragment passes just if it could be read and each of its chosen cases passes by the output of
its own job. -/
theorem passed_iff {outputOf : Job → CompileOutput} {result : FragmentResult}
    (collected : Collected surroundings options workdir (RanAs outputOf) outputDir item result)
    (distinct : ∀ fragment, item.fragment = some fragment → (fragment.cases.map (·.name)).Nodup)
    (fresh : item.cases = []) :
    result.passed = true ↔
      item.error = none ∧ ∀ fragment, item.fragment = some fragment →
        ∀ testCase ∈ options.chosenCases fragment,
          Passes surroundings workdir fragment testCase
            (outputOf (Job.own fragment item.key outputDir testCase)) := by
  rw [FragmentResult.passed, Bool.and_eq_true, Option.isNone_iff_eq_none, Bool.not_eq_true',
    List.any_eq_false]
  cases collected with
  | unread holds => simp [holds, fresh]
  | read holds each =>
    refine and_congr_right fun _ => ?_
    simp only [holds, Option.some.injEq, forall_eq', Bool.not_eq_true]
    constructor
    · intro fine testCase chosen
      obtain ⟨present, enabled, selected⟩ := RunOptions.mem_chosenCases.mp chosen
      obtain ⟨result, member, found⟩ :=
        each.exists_of_mem_left (List.mem_filter.mpr ⟨present, selected⟩)
      exact (found.failed_eq_false_iff (distinct _ holds)).mp (fine result member) enabled
    · intro pass result member
      obtain ⟨testCase, listed, found⟩ := each.exists_of_mem_right member
      refine (found.failed_eq_false_iff (distinct _ holds)).mpr fun enabled => ?_
      exact pass testCase (RunOptions.mem_chosenCases_of_selected enabled listed)

/-- A fragment has results of cases just if some of its cases are selected. -/
theorem cases_ne_nil_iff {result : FragmentResult} (fresh : item.cases = [])
    (collected : Collected surroundings options workdir gave outputDir item result) :
    result.cases ≠ [] ↔ ∃ fragment, item.fragment = some fragment ∧
      ∃ testCase ∈ fragment.cases, options.selects testCase = true := by
  cases collected with
  | unread holds => simp [holds, fresh]
  | read holds each =>
    rw [← List.length_pos_iff_ne_nil, ← each.length_eq, List.length_pos_iff_ne_nil, ne_eq,
      List.filter_eq_nil_iff]
    simp [holds]

end Collected

/-! ## Collecting one case -/

/-- A disabled case is skipped, whatever was compiled. -/
theorem collectCase_of_disabled {whole : Option (Compilation × List Verdict)}
    (disabled : testCase.enabled = false) :
    collectCase compiled key whole testCase = .ok (some (.ofDisabled testCase)) := by
  rw [collectCase, disabled]
  rfl

/-- An enabled case that has a compiler run of its own is judged by it. -/
theorem collectCase_of_alone (enabled : testCase.enabled = true)
    (ran : compiled.lookup (key, some testCase.name) = some compilation) :
    collectCase compiled key none testCase =
      (fun verdict => some (.ofVerdict verdict compilation)) <$>
        Verdict.judgeSingle testCase compilation.output := by
  rw [collectCase, enabled]
  simp only [Bool.not_true, Bool.false_eq_true, ↓reduceIte, Option.bind_none, ran]
  cases Verdict.judgeSingle testCase compilation.output <;> rfl

/-- An enabled case among others is given its verdict. -/
theorem collectCase_of_together (enabled : testCase.enabled = true)
    (distinct : (verdicts.map (·.testCase.name)).Nodup) (member : verdict ∈ verdicts)
    (about : verdict.testCase = testCase) :
    collectCase compiled key (some (compilation, verdicts)) testCase =
      .ok (some (.ofVerdict verdict compilation)) := by
  -- The last verdict under the name is taken, and there is no other one since names are distinct.
  have found : verdicts.reverse.find? (·.testCase.name = testCase.name) = some verdict := by
    refine List.find?_eq_some_of_unique (List.mem_reverse.mpr member) ?_ ?_
    · simp [about]
    · intro other also same
      rw [← about] at same
      exact List.inj_on_of_nodup_map distinct (List.mem_reverse.mp also) member (by simpa using same)
  rw [collectCase, enabled]
  simp only [Bool.not_true, Bool.false_eq_true, ↓reduceIte, Option.bind_some, found, Option.map_some]
  rfl

/-- Cases are collected one by one. -/
theorem collectCases_eq_ok_iff {whole : Option (Compilation × List Verdict)}
    {related : TestCase → CaseResult → Prop} {cases : List TestCase} {results : List CaseResult}
    (each : ∀ testCase ∈ cases, ∀ found, collectCase compiled key whole testCase = .ok found ↔
      ∃ result, found = some result ∧ related testCase result) :
    collectCases compiled key whole cases = .ok results ↔ List.Forall₂ related cases results := by
  induction cases generalizing results with
  | nil =>
    rw [collectCases, List.forall₂_nil_left_iff]
    exact ⟨fun equal => (Except.ok.inj equal).symm, fun empty => congrArg _ empty.symm⟩
  | cons testCase rest ih =>
    have others (last : List CaseResult) : collectCases compiled key whole rest = .ok last ↔
        List.Forall₂ related rest last :=
      ih fun other member => each other (List.mem_cons_of_mem _ member)
    rw [collectCases, List.forall₂_cons_left_iff, Except.bind_eq_ok_iff]
    constructor
    · rintro ⟨found, one, more⟩
      obtain ⟨result, rfl, holds⟩ := (each testCase List.mem_cons_self found).mp one
      obtain ⟨last, done, equal⟩ := Except.bind_eq_ok_iff.mp more
      exact ⟨result, last, holds, (others last).mp done, (Except.ok.inj equal).symm⟩
    · rintro ⟨result, last, holds, done, rfl⟩
      refine ⟨some result, (each testCase List.mem_cons_self _).mpr ⟨result, rfl, holds⟩, ?_⟩
      exact Except.bind_eq_ok_iff.mpr ⟨last, (others last).mpr done, rfl⟩

/-! ## Collecting one fragment -/

/-- There is no compiler run for a whole fragment that is guarded or has no chosen case. -/
theorem Loaded.lookup_whole_eq_none (all : Loaded items) (member : item ∈ items)
    (holds : item.fragment = some fragment)
    (done : CompiledAs expected (plannedJobs settings options items) compiled)
    (needless : fragment.isGuarded = true ∨ options.chosenCases fragment = []) :
    compiled.lookup (item.key, none) = none := by
  -- A job for the whole fragment would be the own job of a chosen case that is not judged alone.
  refine done.lookup_eq_none fun job planned same => ?_
  obtain ⟨again, also, fragment', holds', testCase, chosen, rfl⟩ := mem_plannedJobs.mp planned
  obtain ⟨sameKey, sameName⟩ := Prod.mk.inj same
  obtain rfl : again = item := all.eq_of_key again also item member sameKey
  obtain rfl : fragment' = fragment := Option.some.inj (holds'.symm.trans holds)
  rcases needless with guarded | nothing
  · simp [Job.own, guarded] at sameName
  · exact List.ne_nil_of_mem chosen nothing

/-- The own job of a chosen case is done. -/
theorem CompiledAs.exists_ranIn (done : CompiledAs expected (plannedJobs settings options items)
      compiled) (member : item ∈ items) (holds : item.fragment = some fragment)
    (chosen : testCase ∈ options.chosenCases fragment) :
    ∃ compilation,
      RanIn compiled (Job.own fragment item.key settings.outputDir testCase) compilation :=
  done.exists_lookup (own_mem_plannedJobs settings member holds chosen)

/-- Without verdicts on the whole fragment a case of a guarded fragment has its result. -/
theorem collectCase_eq_ok_iff_of_alone (guarded : testCase.enabled = true → fragment.isGuarded = true)
    (ran : testCase.enabled = true →
      ∃ compilation, RanIn compiled (Job.own fragment key outputDir testCase) compilation)
    (found : Option CaseResult) :
    collectCase compiled key none testCase = .ok found ↔
      ∃ result, found = some result ∧
        ResultOf surroundings workdir (RanIn compiled) outputDir key fragment testCase result := by
  cases enabled : testCase.enabled with
  | false => simp [collectCase_of_disabled enabled, ResultOf.of_disabled_iff enabled, eq_comm]
  | true =>
    obtain ⟨compilation, present⟩ := ran enabled
    have looked : compiled.lookup (key, some testCase.name) = some compilation := by
      rw [← Job.identity_own_of_guarded (guarded enabled) key outputDir testCase, present]
    rw [collectCase_of_alone enabled looked, Except.map_eq_ok_iff]
    simp only [ResultOf.of_enabled_iff enabled]
    constructor
    · rintro ⟨verdict, judged, rfl⟩
      exact ⟨_, rfl, compilation, present, verdict, .alone (guarded enabled) judged, rfl⟩
    · rintro ⟨_, rfl, again, present', verdict, own, rfl⟩
      -- The table holds one compiler run for the job, and a guarded case is judged alone.
      cases Option.some.inj (present.symm.trans present')
      cases own with
      | alone _ judged => exact ⟨verdict, judged, rfl⟩
      | together unguarded => rw [guarded enabled] at unguarded; cases unguarded

/-- With the verdicts on the whole fragment an enabled case of it has its result. -/
theorem collectCase_eq_ok_iff_of_together (together : fragment.isGuarded = false)
    (distinct : (fragment.cases.map (·.name)).Nodup)
    (judged : Verdict.judgeWhole surroundings fragment compilation.output workdir = .ok verdicts)
    (ran : compiled.lookup (key, none) = some compilation) (member : testCase ∈ fragment.cases)
    (found : Option CaseResult) :
    collectCase compiled key (some (compilation, verdicts)) testCase = .ok found ↔
      ∃ result, found = some result ∧
        ResultOf surroundings workdir (RanIn compiled) outputDir key fragment testCase result := by
  cases enabled : testCase.enabled with
  | false => simp [collectCase_of_disabled enabled, ResultOf.of_disabled_iff enabled, eq_comm]
  | true =>
    have present : testCase ∈ verdicts.map (·.testCase) := by
      rw [Verdict.map_testCase_of_judgeWhole judged]
      exact List.mem_filter.mpr ⟨member, enabled⟩
    obtain ⟨verdict, also, about⟩ := List.mem_map.mp present
    have own : OwnVerdict surroundings workdir fragment testCase compilation.output verdict :=
      .together together judged also about
    have looked : RanIn compiled (Job.own fragment key outputDir testCase) compilation := by
      rw [RanIn, Job.identity_own_of_together together key outputDir testCase, ran]
    rw [collectCase_of_together enabled (Verdict.nodup_name_of_judgeWhole distinct judged) also about]
    simp only [ResultOf.of_enabled_iff enabled, Except.ok.injEq]
    constructor
    · rintro rfl
      exact ⟨_, rfl, compilation, looked, verdict, own, rfl⟩
    · rintro ⟨_, rfl, again, looked', verdict', own', rfl⟩
      cases Option.some.inj (looked.symm.trans looked')
      rw [own.unique distinct own']

/-- Without a compiler run for a whole fragment there are no verdicts on it. -/
theorem judgeFragment_of_none (missing : compiled.lookup (key, none) = none) :
    judgeFragment surroundings workdir compiled key fragment = .ok none := by
  rw [judgeFragment, missing]

/-- With a compiler run for a whole fragment there are verdicts on it. -/
theorem judgeFragment_eq_ok_iff (ran : compiled.lookup (key, none) = some compilation)
    {whole : Option (Compilation × List Verdict)} :
    judgeFragment surroundings workdir compiled key fragment = .ok whole ↔
      ∃ verdicts,
        Verdict.judgeWhole surroundings fragment compilation.output workdir = .ok verdicts ∧
          some (compilation, verdicts) = whole := by
  rw [judgeFragment, ran]
  simp only [Except.bind_eq_ok_iff, pure, Except.pure, Except.ok.injEq]

/-- Collecting the results of a fragment that was read is collecting those of its cases. -/
theorem collect_eq_ok_iff_of_read (holds : item.fragment = some fragment) {result : FragmentResult} :
    collect surroundings options workdir compiled item = .ok result ↔
      ∃ whole, judgeFragment surroundings workdir compiled item.key fragment = .ok whole ∧
        ∃ cases, collectCases compiled item.key whole (fragment.cases.filter options.selects) =
            .ok cases ∧ { item with cases := cases } = result := by
  obtain ⟨path, key, _, before, error, artifact⟩ := item
  cases holds
  simp only [collect, Except.bind_eq_ok_iff, pure, Except.pure, Except.ok.injEq]

/-- What is collected for a fragment without a compiler run for the whole of it. -/
theorem Loaded.collect_eq_ok_iff_of_alone (all : Loaded items) (member : item ∈ items)
    (holds : item.fragment = some fragment)
    (done : CompiledAs expected (plannedJobs settings options items) compiled)
    (needless : fragment.isGuarded = true ∨ options.chosenCases fragment = [])
    {result : FragmentResult} :
    collect surroundings options workdir compiled item = .ok result ↔
      Collected surroundings options workdir (RanIn compiled) settings.outputDir item result := by
  have missing := all.lookup_whole_eq_none member holds done needless
  rw [Collected.read_iff holds, collect_eq_ok_iff_of_read holds, judgeFragment_of_none missing]
  simp only [Except.ok.injEq, exists_eq_left']
  refine exists_congr fun cases => and_congr_left' (collectCases_eq_ok_iff fun testCase listed => ?_)
  refine collectCase_eq_ok_iff_of_alone (fun enabled => ?_) fun enabled => ?_
  · have chosen := RunOptions.mem_chosenCases_of_selected enabled listed
    exact needless.resolve_right (List.ne_nil_of_mem chosen)
  · exact done.exists_ranIn member holds (RunOptions.mem_chosenCases_of_selected enabled listed)

/-- What is collected for a fragment with a compiler run for the whole of it. -/
theorem Loaded.collect_eq_ok_iff_of_together (all : Loaded items) (member : item ∈ items)
    (holds : item.fragment = some fragment)
    (done : CompiledAs expected (plannedJobs settings options items) compiled)
    (together : fragment.isGuarded = false) {chosen : TestCase}
    (needed : chosen ∈ options.chosenCases fragment) {result : FragmentResult} :
    collect surroundings options workdir compiled item = .ok result ↔
      Collected surroundings options workdir (RanIn compiled) settings.outputDir item result := by
  obtain ⟨compilation, ran⟩ := done.exists_ranIn member holds needed
  have looked : compiled.lookup (item.key, none) = some compilation := by
    rw [← Job.identity_own_of_together together item.key settings.outputDir chosen, ran]
  have results {verdicts : List Verdict} (cases : List CaseResult)
      (judged : Verdict.judgeWhole surroundings fragment compilation.output workdir = .ok verdicts) :
      collectCases compiled item.key (some (compilation, verdicts))
          (fragment.cases.filter options.selects) = .ok cases ↔
        List.Forall₂ (ResultOf surroundings workdir (RanIn compiled) settings.outputDir item.key
          fragment) (fragment.cases.filter options.selects) cases :=
    collectCases_eq_ok_iff fun testCase listed =>
      collectCase_eq_ok_iff_of_together together (all.nodup_names item member fragment holds) judged
        looked (List.mem_of_mem_filter listed)
  rw [Collected.read_iff holds, collect_eq_ok_iff_of_read holds]
  simp only [judgeFragment_eq_ok_iff looked]
  constructor
  · rintro ⟨_, ⟨verdicts, judged, rfl⟩, cases, collected, equal⟩
    exact ⟨cases, (results cases judged).mp collected, equal⟩
  · rintro ⟨cases, each, equal⟩
    -- The chosen case has a result, which rests on verdicts on the whole fragment.
    obtain ⟨present, enabled, selected⟩ := RunOptions.mem_chosenCases.mp needed
    obtain ⟨one, -, found⟩ :=
      each.exists_of_mem_left (List.mem_filter.mpr ⟨present, selected⟩)
    obtain ⟨again, ran', verdict, own, -⟩ := (ResultOf.of_enabled_iff enabled).mp found
    cases Option.some.inj (ran.symm.trans ran')
    cases own with
    | alone guarded => rw [together] at guarded; cases guarded
    | together _ judged =>
      exact ⟨_, ⟨_, judged, rfl⟩, cases, (results cases judged).mpr each, equal⟩

/-- A fragment has one result, and that is what collecting gives. -/
theorem Loaded.collect_eq_ok_iff (all : Loaded items) (member : item ∈ items)
    (done : CompiledAs expected (plannedJobs settings options items) compiled)
    {result : FragmentResult} :
    collect surroundings options workdir compiled item = .ok result ↔
      Collected surroundings options workdir (RanIn compiled) settings.outputDir item result := by
  cases holds : item.fragment with
  | none =>
    rw [Collected.unread_iff holds, collect, holds]
    exact ⟨fun equal => (Except.ok.inj equal).symm, fun equal => congrArg _ equal.symm⟩
  | some fragment =>
    by_cases needless : fragment.isGuarded = true ∨ options.chosenCases fragment = []
    · exact all.collect_eq_ok_iff_of_alone member holds done needless
    · obtain ⟨unguarded, something⟩ := not_or.mp needless
      obtain ⟨chosen, needed⟩ := List.exists_mem_of_ne_nil _ something
      exact all.collect_eq_ok_iff_of_together member holds done (Bool.eq_false_iff.mpr unguarded)
        needed

/-- Compiler runs that a table holds for planned jobs gave what the compiler gives for them. -/
theorem Collected.ranAs {outputOf : Job → CompileOutput} (all : Loaded items) (member : item ∈ items)
    (done : CompiledAs (fun job output => output = outputOf job) (plannedJobs settings options items)
      compiled) {result : FragmentResult}
    (found : Collected surroundings options workdir (RanIn compiled) settings.outputDir item
      result) :
    Collected surroundings options workdir (RanAs outputOf) settings.outputDir item result :=
  found.mono fun _ holds _ chosen _ ran =>
    all.expected_of_lookup done (own_mem_plannedJobs settings member holds chosen) ran

/-- A fragment has a result if there is an own verdict on each of its chosen cases. -/
theorem CompiledAs.exists_collected {outputOf : Job → CompileOutput} (all : Loaded items)
    (member : item ∈ items)
    (done : CompiledAs (fun job output => output = outputOf job) (plannedJobs settings options items)
      compiled)
    (verdicts : ∀ fragment, item.fragment = some fragment →
      ∀ testCase ∈ options.chosenCases fragment,
        ∃ verdict, OwnVerdict surroundings workdir fragment testCase
          (outputOf (Job.own fragment item.key settings.outputDir testCase)) verdict) :
    ∃ result,
      Collected surroundings options workdir (RanIn compiled) settings.outputDir item result := by
  cases holds : item.fragment with
  | none => exact ⟨item, .unread holds⟩
  | some fragment =>
    have each : ∀ testCase ∈ fragment.cases.filter options.selects,
        ∃ result, ResultOf surroundings workdir (RanIn compiled) settings.outputDir item.key
          fragment testCase result := by
      intro testCase listed
      cases enabled : testCase.enabled with
      | false => exact ⟨_, .skipped enabled⟩
      | true =>
        have chosen := RunOptions.mem_chosenCases_of_selected enabled listed
        obtain ⟨compilation, ran⟩ := done.exists_ranIn member holds chosen
        obtain ⟨verdict, own⟩ := verdicts fragment holds testCase chosen
        have planned := own_mem_plannedJobs settings member holds chosen
        rw [← all.expected_of_lookup done planned ran] at own
        exact ⟨_, .judged enabled ran own⟩
    obtain ⟨cases, found⟩ := List.exists_forall₂ each
    exact ⟨_, .read holds found⟩

end NegativeCompile
