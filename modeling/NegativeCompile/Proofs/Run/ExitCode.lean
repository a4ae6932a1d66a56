import NegativeCompile.Harness
import NegativeCompile.Proofs.Report.Printing
import NegativeCompile.Proofs.Run.Settling

/-! # What the number at the end means

A program ends with zero only if there is nothing to complain about: every fragment could be read,
every selected enabled case passed by the output of its own job, and some case was selected if
patterns were given (`Harness.checkWith_eq_zero_iff`). -/

namespace NegativeCompile

open Files

variable {settings : Settings} {options : RunOptions} {kind : ReportKind} {find : Action Unit}
variable {compile : Job → Action CompileOutput} {reporter : Reporter}
variable {items results : List FragmentResult} {compiled : CompiledJobs}
variable {machine : Machine} {world started ready : World}

/-! ## Reporting -/

/-- Reporting the result of a fragment moves no file. -/
theorem Reporter.keepsPaths_fragment (reporter : Reporter) (result : FragmentResult)
    (index total : Nat) : Action.KeepsPaths (reporter.fragment result index total) := by
  unfold Reporter.fragment
  split
  · exact .pure _
  · exact .bind (.printAll _) fun _ => .pure _

namespace Harness

/-- Tell a reporter of all results, write the generated tests, and complete the report. -/
def publish (settings : Settings) (options : RunOptions) (reporter : Reporter)
    (compiled : CompiledJobs) (results : List FragmentResult) : Action RunResult := do
  let (written, reported) ← announce settings options Reporter.fragment reporter results
  let run : RunResult := ⟨written, .fraction (totalDuration compiled)⟩
  reported.complete run
  return run

/-- The number that a program ends with after a run. -/
def codeOf (options : RunOptions) (run : RunResult) : Int :=
  if !options.cases.isEmpty && run.caseResults.isEmpty then 1 else run.exitCode

/-- What is said after the report: that no case was selected, if patterns were given. -/
def remark (options : RunOptions) (run : RunResult) : String :=
  if !options.cases.isEmpty && run.caseResults.isEmpty then nothingSelected ++ "\n" else ""

/-- After the report it is said whether no case was selected, and the number is given. -/
theorem perform_conclusion (options : RunOptions) (run : RunResult) (machine : Machine)
    (world : World) :
    (if !options.cases.isEmpty && run.caseResults.isEmpty then do
        Action.print nothingSelected
        return 1
      else return run.exitCode : Action Int).perform machine world =
        (.ok (codeOf options run), world.withOutput (world.console.output ++ remark options run)) := by
  rw [codeOf, remark]
  split
  · exact Action.perform_bind_of_ok (Action.perform_print (by decide) machine world) _
  · rw [String.append_empty]
    rfl

/-- Once the run has been prepared, a program ends with a number just if all results are found and
published, and the number tells of them. -/
theorem checkWith_eq_ok_iff
    (starts : ((Reporter.ofKind kind).start settings.fragments.length
      (options.jobsFor settings)).perform machine world = (.ok reporter, started))
    (prepared : (prepare settings options find compile settings.fragments).perform machine started =
      (.ok (items, compiled), ready)) {code : Int} :
    ((checkWith settings options kind find compile).perform machine world).1 = .ok code ↔
      ∃ results, judgeAll ⟨ready.tree, machine.here⟩ options settings.compiler.workdir compiled
          items = .ok results ∧
        ∃ run after, (publish settings options reporter compiled results).perform machine ready =
          (.ok run, after) ∧ codeOf options run = code := by
  have quiet := Reporter.keepsPaths_fragment
  rw [checkWith, Action.perform_bind_of_ok starts]
  constructor
  · intro ended
    obtain ⟨⟨run, reported⟩, between, ran, rest⟩ :=
      Action.perform_bind_eq_ok_iff.mp (Prod.ext ended rfl)
    obtain ⟨results, judged, written, announced, rfl⟩ :=
      (runWith_eq_ok_iff quiet prepared).mp ran
    obtain ⟨_, completed, completes, concluded⟩ := Action.perform_bind_eq_ok_iff.mp rest
    -- The report was completed before the number was told, so all of it was published.
    refine ⟨results, judged, ⟨written, .fraction (totalDuration compiled)⟩, completed, ?_, ?_⟩
    · refine Action.perform_bind_eq_ok_iff.mpr ⟨(written, reported), between, announced, ?_⟩
      exact Action.perform_bind_eq_ok_iff.mpr ⟨(), completed, completes, rfl⟩
    · have equal := (perform_conclusion options _ machine completed).symm.trans concluded
      exact Except.ok.inj (Prod.mk.inj equal).1
  · rintro ⟨results, judged, run, completed, published, rfl⟩
    obtain ⟨⟨written, reported⟩, between, announced, rest⟩ :=
      Action.perform_bind_eq_ok_iff.mp published
    obtain ⟨_, _, completes, equal⟩ := Action.perform_bind_eq_ok_iff.mp rest
    cases equal
    have ran := (runWith_eq_ok_iff quiet prepared).mpr ⟨results, judged, written, announced, rfl⟩
    rw [Action.perform_bind_of_ok ran]
    dsimp only
    rw [Action.perform_bind_of_ok completes, perform_conclusion]

/-! ## Reports on a terminal

Nothing can go wrong when a run is reported for reading on a terminal. -/

/-- On a terminal every line can be printed. -/
theorem perform_print_of_terminal (machine : Machine) (terminal : world.console.isTerminal = true)
    (line : String) :
    ∃ output, (Action.print line).perform machine world = (.ok (), world.withOutput output) := by
  have printed : world.console.print? line = some { world.console with
      output := world.console.output ++ (line ++ "\n") } := by
    simp only [Console.print?, Console.shown?, terminal, ↓reduceIte, Option.map_some]
  refine ⟨world.console.output ++ (line ++ "\n"), ?_⟩
  rw [Action.print, Action.printBy, Action.perform_bind_of_ok Action.perform_get]
  simp only [printed, Action.perform_set]
  rfl

/-- On a terminal all lines that can be shown can be printed. -/
theorem perform_printAll_of_terminal (machine : Machine)
    (terminal : world.console.isTerminal = true) {lines : List (Except Failure String)}
    (shown : ∀ line ∈ lines, ∃ text, line = .ok text) :
    ∃ output, (Action.printAll lines).perform machine world = (.ok (), world.withOutput output) := by
  induction lines generalizing world with
  | nil => exact ⟨world.console.output, rfl⟩
  | cons line rest ih =>
    obtain ⟨text, rfl⟩ := shown line List.mem_cons_self
    obtain ⟨output, printed⟩ := perform_print_of_terminal machine terminal text
    have stays : (world.withOutput output).console.isTerminal = true := terminal
    obtain ⟨last, others⟩ := ih stays fun other member =>
      shown other (List.mem_cons_of_mem _ member)
    refine ⟨last, ?_⟩
    rw [Action.printAll, Action.perform_lift_bind_ok, Action.perform_bind_of_ok printed, others]
    rfl

/-- Some results were timed: how long their cases took is a fraction. -/
def Timed (result : FragmentResult) : Prop :=
  ∀ found ∈ result.cases, ∃ value, found.duration = .fraction value

/-- What is collected was timed. -/
theorem timed_of_collected {surroundings : Surroundings} {workdir : Option Path}
    {gave : Job → Compilation → Prop} {outputDir : Path} {item result : FragmentResult}
    (fresh : item.cases = [])
    (collected : Collected surroundings options workdir gave outputDir item result) :
    Timed result := by
  intro found member
  cases collected with
  | unread =>
    rw [fresh] at member
    cases member
  | read holds each =>
    obtain ⟨testCase, -, rests⟩ := each.exists_of_mem_right member
    cases rests with
    | skipped => exact ⟨_, rfl⟩
    | judged => exact ⟨_, rfl⟩

/-- The lines for a fragment that was timed can be shown. -/
theorem shown_fragmentLines (style : Terminal.Style) {result : FragmentResult}
    (timed : Timed result) (index total : Nat) :
    ∀ line ∈ Terminal.fragmentLines style result index total, ∃ text, line = .ok text := by
  intro line member
  unfold Terminal.fragmentLines at member
  split at member
  · simp only [List.mem_cons, List.not_mem_nil, or_false] at member
    rcases member with rfl | rfl <;> exact ⟨_, rfl⟩
  · rcases List.mem_cons.mp member with rfl | member
    · exact ⟨_, rfl⟩
    · obtain ⟨found, present, listed⟩ := List.mem_flatMap.mp member
      obtain ⟨value, took⟩ := timed found present
      rcases List.mem_cons.mp listed with rfl | listed
      · rw [Terminal.statusLine, took]
        exact ⟨_, rfl⟩
      · split at listed
        · rw [List.mem_singleton] at listed
          exact ⟨_, listed⟩
        · cases listed

/-- The lines at the end of a run can be shown. -/
theorem shown_endLines (style : Terminal.Style) (fragments : List FragmentResult)
    (value : Number.Binary64) (failures : List Terminal.FailedCase) :
    ∀ line ∈ Terminal.endLines style ⟨fragments, .fraction value⟩ failures,
      ∃ text, line = .ok text := by
  intro line member
  rcases List.mem_cons.mp member with rfl | member
  · exact ⟨_, rfl⟩
  · split at member
    · cases member
    · obtain ⟨text, -, rfl⟩ := List.mem_map.mp member
      exact ⟨text, rfl⟩

/-- Results that were timed can be told of on a terminal. -/
theorem perform_tellAll_of_terminal {style : Terminal.Style} (machine : Machine)
    (terminal : world.console.isTerminal = true) (kind : reporter.kind = .terminal style)
    (timed : ∀ result ∈ results, Timed result) (total index : Nat) :
    ∃ last output, last.kind = .terminal style ∧
      (tellAll Reporter.fragment total reporter index results).perform machine world =
        (.ok last, world.withOutput output) := by
  -- The reporter gathers failures on the way, so it changes from fragment to fragment.
  induction results generalizing world reporter index with
  | nil => exact ⟨reporter, world.console.output, kind, rfl⟩
  | cons result rest ih =>
    obtain ⟨output, printed⟩ := perform_printAll_of_terminal machine terminal
      (shown_fragmentLines style (timed result List.mem_cons_self) index total)
    obtain ⟨_, failures⟩ := reporter
    cases kind
    let next : Reporter := ⟨.terminal style, failures ++ Terminal.failuresOf result⟩
    have told : (Reporter.fragment ⟨.terminal style, failures⟩ result index total).perform machine
        world = (.ok next, world.withOutput output) :=
      Action.perform_bind_of_ok printed _
    have stays : (world.withOutput output).console.isTerminal = true := terminal
    have sameKind : next.kind = .terminal style := rfl
    obtain ⟨last, final, lastKind, others⟩ := ih stays sameKind
      (fun other member => timed other (List.mem_cons_of_mem _ member)) (index + 1)
    exact ⟨last, final, lastKind, (Action.perform_bind_of_ok told _).trans others⟩

/-- Results that were timed can be published on a terminal if no tests are to be written. -/
theorem perform_publish_of_terminal {style : Terminal.Style} (machine : Machine)
    (terminal : world.console.isTerminal = true) (kind : reporter.kind = .terminal style)
    (unwritten : options.writesArtifacts settings = false)
    (timed : ∀ result ∈ results, Timed result) :
    ∃ run after, (publish settings options reporter compiled results).perform machine world =
      (.ok run, after) := by
  obtain ⟨last, output, lastKind, told⟩ :=
    perform_tellAll_of_terminal machine terminal kind timed results.length 1
  have announced : (announce settings options Reporter.fragment reporter results).perform machine
      world = (.ok (results, last), world.withOutput output) := by
    rw [announce, Action.perform_bind_of_ok told, writeRequested, unwritten]
    rfl
  have stays : (world.withOutput output).console.isTerminal = true := terminal
  obtain ⟨final, completed⟩ := perform_printAll_of_terminal machine stays
    (shown_endLines style results (totalDuration compiled) last.failures)
  have completes : (last.complete ⟨results, .fraction (totalDuration compiled)⟩).perform machine
      (world.withOutput output) = (.ok (), world.withOutput final) := by
    rw [Reporter.complete, lastKind]
    exact completed
  refine ⟨⟨results, .fraction (totalDuration compiled)⟩, world.withOutput final, ?_⟩
  rw [publish, Action.perform_bind_of_ok announced]
  exact Action.perform_bind_of_ok completes _

/-! ## The number at the end -/

/-- The results that are published are those that were found. -/
theorem eq_of_publish {run : RunResult} {after : World}
    (published : (publish settings options reporter compiled results).perform machine world =
      (.ok run, after)) :
    run = ⟨returned settings options results, .fraction (totalDuration compiled)⟩ := by
  obtain ⟨⟨written, reported⟩, between, announced, rest⟩ :=
    Action.perform_bind_eq_ok_iff.mp published
  obtain ⟨_, completed, -, equal⟩ := Action.perform_bind_eq_ok_iff.mp rest
  cases equal
  rw [eq_of_announce announced]

/-- The number is zero just if every fragment passed and, if patterns were given, some case has a
result. -/
theorem codeOf_eq_zero_iff {run : RunResult} :
    codeOf options run = 0 ↔ (∀ result ∈ run.fragments, result.passed = true) ∧
      (options.cases ≠ [] → ∃ result ∈ run.fragments, result.cases ≠ []) := by
  have someResult : run.caseResults.isEmpty = false ↔
      ∃ result ∈ run.fragments, result.cases ≠ [] := by
    rw [List.isEmpty_eq_false_iff, RunResult.caseResults, ne_eq, List.flatMap_eq_nil_iff]
    simp only [not_forall, exists_prop]
  have code : run.exitCode = 0 ↔ ∀ result ∈ run.fragments, result.passed = true := by
    rw [RunResult.exitCode, RunResult.passed, ← List.all_eq_true]
    split <;> simp [*]
  rw [← code, ← someResult, codeOf]
  -- Without patterns the number is that of the run; with patterns it is so if there is any result.
  cases options.cases with
  | nil => simp
  | cons => cases run.caseResults.isEmpty <;> simp

/-- Where generated tests are does not matter for the number. -/
theorem codeOf_returned {duration : Duration} :
    codeOf options ⟨returned settings options results, duration⟩ =
      codeOf options ⟨results, duration⟩ := by
  have sameCases : RunResult.caseResults ⟨returned settings options results, duration⟩ =
      RunResult.caseResults ⟨results, duration⟩ := by
    simp only [RunResult.caseResults, returned]
    split
    · exact List.flatMap_map _ _ results
    · rfl
  have samePassed : RunResult.passed ⟨returned settings options results, duration⟩ =
      RunResult.passed ⟨results, duration⟩ := by
    simp only [RunResult.passed, returned]
    split
    · exact List.all_map
    · rfl
  rw [codeOf, codeOf, sameCases, RunResult.exitCode, samePassed, RunResult.exitCode]

/-- The number for collected results is zero just if every fragment could be read and each of its
chosen cases passes and, if patterns were given, some case is selected. -/
theorem codeOf_eq_zero_iff_of_collected {outputOf : Job → CompileOutput}
    {surroundings : Surroundings} {workdir : Option Path} {duration : Duration}
    (all : Loaded items)
    (done : CompiledAs (fun job output => output = outputOf job) (plannedJobs settings options items)
      compiled)
    (found : List.Forall₂ (Collected surroundings options workdir (RanIn compiled)
      settings.outputDir) items results) :
    codeOf options ⟨results, duration⟩ = 0 ↔
      (∀ item ∈ items, item.error = none ∧ ∀ fragment, item.fragment = some fragment →
        ∀ testCase ∈ options.chosenCases fragment,
          Passes surroundings workdir fragment testCase
            (outputOf (Job.own fragment item.key settings.outputDir testCase))) ∧
      (options.cases ≠ [] → ∃ item ∈ items, ∃ fragment, item.fragment = some fragment ∧
        ∃ testCase ∈ fragment.cases, options.selects testCase = true) := by
  rw [codeOf_eq_zero_iff]
  refine and_congr (found.forall_mem_iff fun item member result collected => ?_)
    (imp_congr_right fun _ => found.exists_mem_iff fun item member result collected => ?_)
  · exact (collected.ranAs all member done).passed_iff (all.nodup_names item member)
      (all.cases_eq_nil item member)
  · exact collected.cases_ne_nil_iff (all.cases_eq_nil item member)

/-- A program ends with zero just if every fragment could be read, the own job of every selected
enabled case was planned and the case passes by its output, and some case is selected if patterns
were given. This holds for whatever the compiler gives for jobs, once fragments were read and jobs
compiled and as long as what is found can be reported and written. -/
theorem checkWith_eq_zero_iff {outputOf : Job → CompileOutput}
    (answers : Answers machine compile outputOf)
    (starts : ((Reporter.ofKind kind).start settings.fragments.length
      (options.jobsFor settings)).perform machine world = (.ok reporter, started))
    (prepared : (prepare settings options find compile settings.fragments).perform machine started =
      (.ok (items, compiled), ready))
    (publishes : ∀ results,
      judgeAll ⟨ready.tree, machine.here⟩ options settings.compiler.workdir compiled items =
          .ok results →
        ∃ run after, (publish settings options reporter compiled results).perform machine ready =
          (.ok run, after)) :
    ((checkWith settings options kind find compile).perform machine world).1 = .ok 0 ↔
      (∀ item ∈ items, item.error = none) ∧
      (∀ item ∈ items, ∀ fragment, item.fragment = some fragment →
        ∀ testCase ∈ fragment.cases, testCase.enabled = true → options.selects testCase = true →
          Job.own fragment item.key settings.outputDir testCase ∈
              plannedJobs settings options items ∧
            Passes ⟨ready.tree, machine.here⟩ settings.compiler.workdir fragment testCase
              (outputOf (Job.own fragment item.key settings.outputDir testCase))) ∧
      (options.cases ≠ [] → ∃ item ∈ items, ∃ fragment, item.fragment = some fragment ∧
        ∃ testCase ∈ fragment.cases, options.selects testCase = true) := by
  have all := Loaded.of_prepare prepared
  have done := CompiledAs.of_prepare answers prepared
  rw [checkWith_eq_ok_iff starts prepared]
  constructor
  · rintro ⟨results, judged, run, after, published, zero⟩
    have found := (all.judgeAll_eq_ok_iff done).mp judged
    rw [eq_of_publish published, codeOf_returned, codeOf_eq_zero_iff_of_collected all done found]
      at zero
    obtain ⟨pass, selected⟩ := zero
    refine ⟨fun item member => (pass item member).1, ?_, selected⟩
    intro item member fragment holds testCase present enabled select
    have chosen := RunOptions.mem_chosenCases.mpr ⟨present, enabled, select⟩
    exact ⟨own_mem_plannedJobs settings member holds chosen,
      (pass item member).2 fragment holds testCase chosen⟩
  · rintro ⟨readable, pass, selected⟩
    have passes : ∀ item ∈ items, ∀ fragment, item.fragment = some fragment →
        ∀ testCase ∈ options.chosenCases fragment,
          Passes ⟨ready.tree, machine.here⟩ settings.compiler.workdir fragment testCase
            (outputOf (Job.own fragment item.key settings.outputDir testCase)) := by
      intro item member fragment holds testCase chosen
      obtain ⟨present, enabled, select⟩ := RunOptions.mem_chosenCases.mp chosen
      exact (pass item member fragment holds testCase present enabled select).2
    -- Own verdicts on all chosen cases are enough for every fragment to have a result.
    obtain ⟨results, found⟩ := List.exists_forall₂ fun item member =>
      done.exists_collected all member fun fragment holds testCase chosen =>
        (passes item member fragment holds testCase chosen).imp fun _ own => own.1
    have judged := (all.judgeAll_eq_ok_iff done).mpr found
    obtain ⟨run, after, published⟩ := publishes results judged
    refine ⟨results, judged, run, after, published, ?_⟩
    rw [eq_of_publish published, codeOf_returned, codeOf_eq_zero_iff_of_collected all done found]
    exact ⟨fun item member => ⟨readable item member, passes item member⟩, selected⟩

/-- If the first case of the sample is selected the program ends with zero, although the second case
would fail. -/
theorem checkWith_sample :
    ((checkWith Sample.settings { cases := ["line_1"], writeArtifacts := some false }
      (.terminal ⟨false, false⟩) (return ()) Sample.compile).perform Sample.machine
        Sample.world).1 = .ok 0 := by
  let options : RunOptions := { cases := ["line_1"], writeArtifacts := some false }
  let style : Terminal.Style := ⟨false, false⟩
  have chosen : options.chosenCases Sample.fragment = [Sample.caseAt "line_1" 1 "foo"] := by
    decide
  have terminal : Sample.world.console.isTerminal = true := rfl
  obtain ⟨output, printed⟩ := perform_print_of_terminal Sample.machine terminal
    (Terminal.startLine style 1 (options.jobsFor Sample.settings))
  have starts : ((Reporter.ofKind (.terminal style)).start Sample.settings.fragments.length
      (options.jobsFor Sample.settings)).perform Sample.machine Sample.world =
        (.ok (.ofKind (.terminal style)), Sample.world.withOutput output) :=
    Action.perform_bind_of_ok printed _
  have files : (Sample.world.withOutput output).tree = Sample.tree := rfl
  obtain ⟨errors, prepared⟩ := Sample.prepare_settings (by decide)
    (chosen ▸ List.cons_ne_nil _ _) files rfl
  have stays : ((Sample.world.withOutput output).withErrors errors).console.isTerminal = true := rfl
  refine (checkWith_eq_zero_iff Sample.answers_compile starts prepared ?_).mpr ⟨?_, ?_, ?_⟩
  · intro results judged
    have found := ((Loaded.of_prepare prepared).judgeAll_eq_ok_iff
      (CompiledAs.of_prepare Sample.answers_compile prepared)).mp judged
    refine perform_publish_of_terminal Sample.machine stays rfl rfl fun result member => ?_
    obtain ⟨item, listed, collected⟩ := found.exists_of_mem_right member
    exact timed_of_collected (Loaded.of_prepare prepared |>.cases_eq_nil item listed) collected
  · intro item member
    rw [List.mem_singleton.mp member]
    rfl
  · intro item member fragment holds testCase present enabled selected
    obtain rfl : item = Sample.item := List.mem_singleton.mp member
    obtain rfl : Sample.fragment = fragment := Option.some.inj holds
    have listed := RunOptions.mem_chosenCases.mpr ⟨present, enabled, selected⟩
    refine ⟨own_mem_plannedJobs Sample.settings member holds listed, ?_⟩
    rw [chosen, List.mem_singleton] at listed
    subst listed
    exact ⟨Sample.firstVerdict, .together rfl Sample.judgeWhole_fragment List.mem_cons_self rfl, rfl⟩
  · intro _
    refine ⟨Sample.item, List.mem_cons_self, Sample.fragment, rfl, ?_⟩
    have listed : Sample.caseAt "line_1" 1 "foo" ∈ options.chosenCases Sample.fragment := by
      rw [chosen]
      exact List.mem_cons_self
    obtain ⟨present, -, selected⟩ := RunOptions.mem_chosenCases.mp listed
    exact ⟨_, present, selected⟩

end Harness

end NegativeCompile
