import NegativeCompile.Proofs.Run.ExitCode
import NegativeCompile.Proofs.Schema.Keeping
import NegativeCompile.Proofs.Report.Printing
import NegativeCompile.Proofs.Report.Reporting

/-! # Reports on the output stream

A report that is printed as a document is all that a program prints on the output stream, but for one
line: if patterns were given and no case was selected, this is said on the same stream, after the
document (`Harness.output_of_execute`). A document is written with ASCII characters that can be seen, so
it is printed as it is, and it is read back as a document that follows the schema. Everything else goes
to the error stream (`Action.IsQuiet`). -/

namespace NegativeCompile

open Files

/-! ## Documents -/

namespace Json

open Text Number

variable {c : Char} {text : List Char} {document : Json}

/-- A character is not the one that codes start with: it is a line feed or an ASCII character that can
be seen. -/
def IsVisible (c : Char) : Prop := c = '\n' ∨ 32 ≤ c.toNat ∧ c.toNat ≤ 126

/-- The characters of a word can be seen. -/
theorem isVisible_word {word : List Char}
    (shown : (word.all fun c => 32 ≤ c.toNat && c.toNat ≤ 126) = true) : ∀ c ∈ word, IsVisible c := by
  intro c member
  have range := List.all_eq_true.mp shown c member
  rw [Bool.and_eq_true, decide_eq_true_eq, decide_eq_true_eq] at range
  exact .inr range

theorem isVisible_hexDigit {value : Nat} (small : value < 16) : IsVisible (hexDigit value) := by
  have each : ∀ value : Fin 16, 32 ≤ (hexDigit value).toNat ∧ (hexDigit value).toNat ≤ 126 := by decide
  exact .inr (each ⟨value, small⟩)

theorem isVisible_unitEscape (unit : Nat) : ∀ c ∈ unitEscape unit, IsVisible c := by
  rw [unitEscape, List.forall_mem_cons, List.forall_mem_cons]
  refine ⟨.inr (by decide), .inr (by decide), fun c member => ?_⟩
  obtain ⟨digit, small, rfl⟩ := exists_of_mem_hexPadded member
  exact isVisible_hexDigit small

/-- What stands for a character in a string can be seen. -/
theorem StandsAs.isVisible (stands : StandsAs c text) : ∀ one ∈ text, IsVisible one := by
  cases stands with
  | itself shown =>
    rw [List.forall_mem_singleton]
    rw [codeOf_eq_toNat (isHalf_of_lt (by omega))] at shown
    exact .inr shown
  | letter _ escapes =>
    rw [List.forall_mem_cons, List.forall_mem_singleton]
    refine ⟨.inr (by decide), .inr ?_⟩
    unfold escaped? at escapes
    split at escapes <;> first | decide | cases escapes
  | unit => exact isVisible_unitEscape _
  | pair => exact List.forall_mem_append.mpr ⟨isVisible_unitEscape _, isVisible_unitEscape _⟩

theorem isVisible_escaped (text : List Char) : ∀ c ∈ text.flatMap escapeChar, IsVisible c := by
  intro c member
  obtain ⟨origin, -, present⟩ := List.mem_flatMap.mp member
  exact (standsAs_escapeChar origin).isVisible c present

theorem isVisible_of_isNumberChar (numeric : isNumberChar c = true) : IsVisible c := by
  simp only [isNumberChar, isAsciiDigit, Bool.or_eq_true, Bool.and_eq_true, decide_eq_true_eq] at numeric
  rcases numeric with (((((digit | rfl) | rfl) | rfl) | rfl) | rfl)
  · exact .inr (by omega)
  all_goals exact .inr (by decide)

theorem isVisible_breakTo (level : Nat) : ∀ c ∈ (breakTo level).toList, IsVisible c := by
  rw [breakTo, String.toList_ofList, List.forall_mem_cons]
  refine ⟨.inl rfl, fun c member => ?_⟩
  rw [List.eq_of_mem_replicate member]
  exact .inr (by decide)

theorem isVisible_between (level : Nat) : ∀ c ∈ between level, IsVisible c := by
  rw [between, List.forall_mem_cons]
  exact ⟨.inr (by decide), isVisible_breakTo level⟩

/-- Texts in a row with line breaks between them can be seen if each can be seen. -/
theorem isVisible_intercalate (level : Nat) {texts : List (List Char)}
    (each : ∀ text ∈ texts, ∀ c ∈ text, IsVisible c) :
    ∀ c ∈ (between level).intercalate texts, IsVisible c := by
  induction texts with
  | nil => exact nofun
  | cons first rest ih =>
    rw [List.forall_mem_cons] at each
    cases rest with
    | nil =>
      rw [List.intercalate_singleton]
      exact each.1
    | cons second rest =>
      rw [List.intercalate_cons_cons, List.forall_mem_append, List.forall_mem_append]
      exact ⟨⟨each.1, isVisible_between level⟩, ih each.2⟩

/-- A string between its quotes can be seen. -/
theorem isVisible_quoted {rest : List Char} (visible : ∀ c ∈ rest, IsVisible c) (value : String) :
    ∀ c ∈ '"' :: (value.toList.flatMap escapeChar ++ '"' :: rest), IsVisible c := by
  rw [List.forall_mem_cons, List.forall_mem_append, List.forall_mem_cons]
  exact ⟨.inr (by decide), isVisible_escaped _, .inr (by decide), visible⟩

/-- All characters of a written document can be seen. -/
theorem IsWritable.isVisible (writable : IsWritable document) (level : Nat) :
    ∀ c ∈ textAt level document, IsVisible c := by
  induction writable generalizing level with
  | null => exact textAt_null level ▸ isVisible_word (by decide)
  | boolean value =>
    cases value with
    | true => exact textAt_true level ▸ isVisible_word (by decide)
    | false => exact textAt_false level ▸ isVisible_word (by decide)
  | integer value =>
    exact fun c member => isVisible_of_isNumberChar ((isNumber_toString value).numeric c member)
  | real proper =>
    rw [textAt_real proper]
    exact fun c member => isVisible_of_isNumberChar ((isNumber_written proper).numeric c member)
  | string value =>
    rw [show textAt level (.string value) = (writeString value).toList from rfl, toList_writeString]
    exact isVisible_quoted (fun _ member => absurd member List.not_mem_nil) value
  | @array items each ih =>
    cases items with
    | nil => exact textAt_array_nil level ▸ isVisible_word (by decide)
    | cons first others =>
      -- Between the brackets are line breaks and the items, which are written one level deeper.
      rw [textAt_array, List.forall_mem_cons, List.forall_mem_append, List.forall_mem_append,
        List.forall_mem_append, List.forall_mem_singleton]
      refine ⟨.inr (by decide), isVisible_breakTo _, isVisible_intercalate _ ?_,
        isVisible_breakTo _, .inr (by decide)⟩
      rw [List.forall_mem_map]
      exact fun item member => ih item member (level + 1)
  | @object members each ih =>
    cases members with
    | nil => exact textAt_object_nil level ▸ isVisible_word (by decide)
    | cons first others =>
      rw [textAt_object, List.forall_mem_cons, List.forall_mem_append, List.forall_mem_append,
        List.forall_mem_append, List.forall_mem_singleton]
      refine ⟨.inr (by decide), isVisible_breakTo _, isVisible_intercalate _ ?_,
        isVisible_breakTo _, .inr (by decide)⟩
      rw [List.forall_mem_map]
      intro member listed
      refine isVisible_quoted ?_ member.1
      rw [List.forall_mem_cons, List.forall_mem_cons]
      exact ⟨.inr (by decide), .inr (by decide), ih member listed (level + 1)⟩

/-- No code is written in a document. -/
theorem IsWritable.escape_not_mem (writable : IsWritable document) :
    Console.escape ∉ document.writeIndented.toList := by
  intro member
  have visible := writable.isVisible 0 _ member
  unfold IsVisible at visible
  revert visible
  decide

end Json

/-! ## Quiet actions -/

namespace Action

/-- Nothing was printed on the output stream, and the console treats codes as before. -/
def Quietly (_ : Machine) (before after : World) : Prop :=
  ∃ errors, after.console = { before.console with errors := errors }

theorem isFrame_quietly : IsFrame Quietly := by
  refine ⟨fun machine world errors => ⟨errors, rfl⟩, ?_⟩
  rintro machine before between after ⟨_, first⟩ ⟨errors, second⟩
  exact ⟨errors, by rw [second, first]⟩

/-- An action prints nothing on the output stream, however it ends. -/
def IsQuiet {α : Type} (action : Action α) : Prop := Stays Quietly action

/-- Changes of files print nothing. -/
theorem isQuiet_withTree {α : Type} (step : Place → ExceptT Failure (StateM Tree) α) :
    IsQuiet (withTree step) := by
  intro machine world
  rw [withTree, perform_bind_of_ok perform_get, perform_bind_of_ok perform_read]
  rcases ((step machine.here).run).run world.tree with ⟨_ | _, tree⟩ <;> exact ⟨world.console.errors, rfl⟩

end Action

section

variable {σ : Type} {inv : σ → Prop} {find : Action Unit}
variable {compile : Job → Action CompileOutput} {observe : Observer σ} {state : σ}

/-- Reading fragments is quiet. -/
theorem isQuiet_loadFragments (base : Path) (paths : List Path) :
    (loadFragments base paths).IsQuiet := by
  intro machine world
  obtain ⟨errors, performed⟩ := loadFrom_perform machine world base [] paths
  rw [loadFragments, performed]
  exact ⟨errors, rfl⟩

/-- Compiling a job is quiet. -/
theorem Compiler.isQuiet_compile (compiler : Compiler) (job : Job) : (compiler.compile job).IsQuiet :=
  compiler.stays_compile Action.isFrame_quietly (Action.isQuiet_withTree _)

/-- Writing a generated test is quiet. -/
theorem Artifact.isQuiet_write (result : FragmentResult) (header : String) (suite : Option String)
    (target : Path) : (Artifact.write result header suite target).IsQuiet :=
  .bind Action.isFrame_quietly (Action.isQuiet_withTree _) fun _ =>
    .bind Action.isFrame_quietly (.note Action.isFrame_quietly _ _) fun _ =>
      .pure Action.isFrame_quietly _

/-- A run is quiet if looking for the compiler, compiling and what observes the run are. -/
theorem isQuiet_runWith (settings : Settings) (options : RunOptions) (looks : find.IsQuiet)
    (compiles : ∀ job, (compile job).IsQuiet) (told : observe.StaysWhile Action.Quietly inv)
    (holds : inv state) (paths : List Path) :
    (runWith settings options find compile paths observe state).IsQuiet := by
  have frame := Action.isFrame_quietly
  have prepares : (prepare settings options find compile paths).IsQuiet :=
    .bind frame (isQuiet_loadFragments _ _) fun items =>
      .bind frame (stays_compilePlanned frame looks fun job _ => compiles job) fun _ => .pure frame _
  have writes (results : List FragmentResult) : (writeRequested settings options results).IsQuiet := by
    unfold writeRequested
    split
    · exact stays_writeArtifacts frame fun result _ => Artifact.isQuiet_write _ _ _ _
    · exact .pure frame _
  refine .bind frame prepares fun prepared => .bind frame ?_ fun settled => .pure frame _
  refine .bind frame (stays_collectAll frame told holds _ _) fun collected => ?_
  exact .bind frame (writes collected.1) fun _ => .pure frame _

end

/-! ## Documents of runs -/

section

variable {run : RunResult} {now : String} {document : Json} {reporter : Reporter}

/-- A document that passes the check is that of the run, and it follows the schema. -/
theorem Report.eq_of_checked (accepted : checked now run = .ok document) :
    document = ofRun now run ∧ schema.Follows document := by
  -- The schema is a closed term, which `unfold` would evaluate.
  delta checked at accepted
  dsimp only at accepted
  split at accepted
  next => cases accepted
  next follows =>
    split at accepted
    · cases accepted
    · cases accepted
      exact ⟨rfl, follows⟩
  next => split at accepted <;> cases accepted

/-- What was printed is a report: one document that follows the schema, and a line feed. -/
def Report.IsPrinted (printed : String) : Prop :=
  ∃ text document, printed = text ++ "\n" ∧ Json.read text = some document ∧ schema.Follows document

/-- What is printed with a remark after the document is a report just if there is no remark. -/
theorem Report.isPrinted_iff (writable : document.IsWritable) (follows : schema.Follows document)
    {options : RunOptions} :
    IsPrinted (document.writeIndented ++ "\n" ++ Harness.remark options run) ↔
      options.cases = [] ∨ run.caseResults ≠ [] := by
  have back : Json.read document.writeIndented = some document.reread := by
    have whole : Json.read (document.writeIndented ++ "") = some document.reread :=
      Json.read_writeIndented writable nofun
    rwa [String.append_empty] at whole
  have marked : (!options.cases.isEmpty && run.caseResults.isEmpty) = true ↔
      ¬(options.cases = [] ∨ run.caseResults ≠ []) := by
    simp
  rw [Harness.remark]
  split
  next said =>
    refine iff_of_false ?_ (marked.mp said)
    rintro ⟨text, read, same, known, -⟩
    -- The remark stands in front of the last line feed, so it is read with the document.
    have whole : text = document.writeIndented ++ ("\n" ++ Harness.nothingSelected) := by
      rw [← String.append_assoc] at same
      rw [← String.append_assoc]
      exact (String.append_left_inj _).mp same.symm
    have stops : Json.Stops ("\n" ++ Harness.nothingSelected).toList := by
      rintro c ⟨⟩
      rfl
    rw [whole, Json.read_writeIndented_append writable stops rfl] at known
    cases known
  next unsaid =>
    refine iff_of_true ⟨_, _, String.append_empty, back, keeps_schema _ follows⟩ ?_
    exact not_not.mp (marked.not.mp unsaid)

namespace Reporter

/-- A report as a document is not touched before the end. -/
theorem staysWhile_document (target : Option Path) :
    Observer.StaysWhile Action.Quietly (fun reporter => reporter.kind = .document target)
      Reporter.fragment := by
  refine ⟨fun reporter kind result index total => ?_,
    fun reporter kind result index total machine world next after told => ?_⟩
  · rw [fragment, kind]
    exact .pure Action.isFrame_quietly _
  · rw [fragment, kind] at told
    cases told
    exact kind

/-- At the end the document is printed, if it passes the check. -/
theorem perform_complete_document (kind : reporter.kind = .document none) (timed : run.IsTimed)
    (machine : Machine) (world : World) :
    (reporter.complete run).perform machine world =
      match Report.checked machine.now run with
      | .ok document =>
        (.ok (), world.withOutput (world.console.output ++ (document.writeIndented ++ "\n")))
      | .error failure => (.error failure, world) := by
  rw [complete, kind]
  dsimp only
  rw [Action.perform_bind_of_ok Action.perform_read]
  cases accepted : Report.checked machine.now run with
  | error failure => exact Action.perform_lift_bind_error failure _
  | ok document =>
    obtain ⟨rfl, -⟩ := Report.eq_of_checked accepted
    rw [Action.perform_lift_bind_ok]
    exact Action.perform_print (Report.isWritable_ofRun timed _).escape_not_mem machine world

end Reporter

end

namespace Harness

variable {settings : Settings} {options : RunOptions} {find : Action Unit}
variable {compile : Job → Action CompileOutput} {machine : Machine} {world after : World} {code : Int}

/-- A run that is reported as a document on the output stream prints the document there, and after it
the remark, whatever the compiler does, as long as it does so quietly. -/
theorem exists_output_of_checkWith (looks : find.IsQuiet) (compiles : ∀ job, (compile job).IsQuiet)
    (brief : GivesBriefly machine compile)
    (returns : (checkWith settings options (.document none) find compile).perform machine world =
      (.ok code, after)) :
    ∃ run reporter, ((runWith settings options find compile settings.fragments Reporter.fragment
        (.ofKind (.document none))).perform machine world).1 = .ok (run, reporter) ∧
      run.IsTimed ∧ code = codeOf options run ∧ Report.schema.Follows (Report.ofRun machine.now run) ∧
      after.console.output = world.console.output ++
        ((Report.ofRun machine.now run).writeIndented ++ "\n" ++ remark options run) := by
  obtain ⟨_, _, equal, returns⟩ := Action.perform_bind_eq_ok_iff.mp returns
  cases equal
  obtain ⟨⟨run, reporter⟩, between, ran, returns⟩ := Action.perform_bind_eq_ok_iff.mp returns
  obtain ⟨_, completed, completes, concluded⟩ := Action.perform_bind_eq_ok_iff.mp returns
  have told := Reporter.staysWhile_document none
  have kind : (Reporter.ofKind (.document none)).kind = .document none := rfl
  have timed := RunResult.isTimed_of_runWith brief ran
  obtain ⟨errors, quiet⟩ : Action.Quietly machine world between := by
    have kept := isQuiet_runWith settings options looks compiles told kind settings.fragments machine
      world
    rwa [ran] at kept
  have ended := inv_of_runWith told kind ran
  rw [Reporter.perform_complete_document ended timed] at completes
  rw [perform_conclusion] at concluded
  cases concluded
  cases accepted : Report.checked machine.now run with
  | error failure =>
    rw [accepted] at completes
    cases completes
  | ok document =>
    rw [accepted] at completes
    cases completes
    obtain ⟨rfl, follows⟩ := Report.eq_of_checked accepted
    refine ⟨run, reporter, by rw [ran], timed, rfl, follows, ?_⟩
    simp only [World.withOutput, quiet, String.append_assoc]

/-- The world of a program whose streams take out titles and marked codes. -/
def filtering (world : World) : World :=
  { world with console := { world.console with isFiltered := true } }

/-- Checking fragments is what is done in the world that takes out codes, unless they are listed. -/
theorem perform_execute (unlisted : options.listOnly = false) (kind : ReportKind) (machine : Machine)
    (world : World) :
    (execute settings options kind).perform machine world =
      (check settings options kind).perform machine (filtering world) := by
  rw [execute, Action.perform_bind_of_ok (Action.perform_modify _), if_neg (by simp [unlisted])]
  rfl

/-! ## Runs without selected cases -/

/-- No case of a fragment that was read is selected. -/
def IsUnselected (options : RunOptions) (item : FragmentResult) : Prop :=
  item.cases = [] ∧
    ∀ fragment, item.fragment = some fragment → fragment.cases.filter options.selects = []

/-- There is nothing to compile for a fragment without selected cases. -/
theorem IsUnselected.jobsOf_eq_nil {item : FragmentResult} (unselected : IsUnselected options item)
    (outputDir : Path) : options.jobsOf outputDir item = [] := by
  rw [RunOptions.jobsOf]
  split
  next => rfl
  next fragment holds =>
    refine if_neg fun some => ?_
    obtain ⟨testCase, enabled, selected⟩ := List.any_eq_true.mp some
    have chosen : testCase ∈ fragment.cases.filter options.selects :=
      List.mem_filter.mpr ⟨List.mem_of_mem_filter enabled, selected⟩
    rw [unselected.2 fragment holds] at chosen
    cases chosen

/-- A fragment without selected cases is collected as it is. -/
theorem IsUnselected.collect_eq {item : FragmentResult} (unselected : IsUnselected options item)
    (surroundings : Surroundings) (workdir : Option Path) :
    collect surroundings options workdir [] item = .ok item := by
  rw [collect]
  split
  next => rfl
  next fragment holds =>
    have fresh : { item with cases := [] } = item := by
      rw [← unselected.1]
    rw [judgeFragment, unselected.2 fragment holds]
    exact congrArg Except.ok fresh

/-- A reporter of documents is not touched by what it is told. -/
theorem perform_tellAll_of_document {reporter : Reporter} {target : Option Path}
    (kind : reporter.kind = .document target) (machine : Machine) (world : World) (total index : Nat)
    (results : List FragmentResult) :
    (tellAll Reporter.fragment total reporter index results).perform machine world =
      (.ok reporter, world) := by
  induction results generalizing index with
  | nil => rfl
  | cons result rest ih =>
    have told : (reporter.fragment result index total).perform machine world = (.ok reporter, world) := by
      rw [Reporter.fragment, kind]
      rfl
    exact (Action.perform_bind_of_ok told _).trans (ih (index + 1))

/-- A run that selects no case of the fragments that it reads has no job to do and ends with what was
read, told to a reporter of documents, if no tests are to be written. -/
theorem perform_runWith_of_unselected {items : List FragmentResult} {start ready : World}
    (unwritten : options.writesArtifacts settings = false)
    (loaded : (loadFragments settings.baseDir settings.fragments).perform machine start =
      (.ok items, ready))
    (unselected : ∀ item ∈ items, IsUnselected options item) :
    (runWith settings options find compile settings.fragments Reporter.fragment
      (.ofKind (.document none))).perform machine start =
        (.ok (⟨items, .fraction .zero⟩, .ofKind (.document none)), ready) := by
  have jobless : plannedJobs settings options items = [] :=
    List.flatMap_eq_nil_iff.mpr fun item member => (unselected item member).jobsOf_eq_nil _
  have prepared : (prepare settings options find compile settings.fragments).perform machine start =
      (.ok (items, []), ready) := by
    refine prepare_eq_ok_iff.mpr ⟨ready, loaded, ?_⟩
    rw [jobless]
    rfl
  have judged : judgeAll ⟨ready.tree, machine.here⟩ options settings.compiler.workdir [] items =
      .ok items :=
    Except.mapM_eq_ok_iff.mpr (List.forall₂_same.mpr fun item member =>
      (unselected item member).collect_eq _ _)
  have announced : (announce settings options Reporter.fragment (.ofKind (.document none)) items).perform
      machine ready = (.ok (items, .ofKind (.document none)), ready) := by
    rw [announce, Action.perform_bind_of_ok (perform_tellAll_of_document rfl machine ready _ 1 items),
      writeRequested, unwritten]
    rfl
  exact (runWith_eq_ok_iff Reporter.keepsPaths_fragment prepared).mpr ⟨items, judged, items, announced, rfl⟩

/-- A program that reads its fragments and selects no case of them ends with a number and prints the
document of the fragments and the remark, if no tests are to be written and the document can be shown. -/
theorem exists_execute_of_unselected {items : List FragmentResult} {ready : World}
    (unlisted : options.listOnly = false) (unwritten : options.writesArtifacts settings = false)
    (loaded : (loadFragments settings.baseDir settings.fragments).perform machine (filtering world) =
      (.ok items, ready))
    (unselected : ∀ item ∈ items, IsUnselected options item)
    (short : (Report.ofRun machine.now ⟨items, .fraction .zero⟩).toDatum.hasLongNumber = false) :
    ∃ after, (execute settings options (.document none)).perform machine world =
        (.ok (codeOf options ⟨items, .fraction .zero⟩), after) ∧
      after.console.output = ready.console.output ++
        ((Report.ofRun machine.now ⟨items, .fraction .zero⟩).writeIndented ++ "\n") ++
          remark options ⟨items, .fraction .zero⟩ ∧
      (Report.IsPrinted ((Report.ofRun machine.now ⟨items, .fraction .zero⟩).writeIndented ++ "\n" ++
        remark options ⟨items, .fraction .zero⟩) ↔ options.cases = []) := by
  let compiler := Compiler.ofSettings (options.compilerFor settings)
  let find : Action Unit := do let _ ← compiler.find
  let reporter := Reporter.ofKind (.document none)
  let found : RunResult := ⟨items, .fraction .zero⟩
  have ran : (runWith settings options find compiler.compile settings.fragments Reporter.fragment
      reporter).perform machine (filtering world) = (.ok (found, reporter), ready) :=
    perform_runWith_of_unselected unwritten loaded unselected
  -- A run without results of cases can be reported.
  have caseless {P : CaseResult → Prop} : ∀ result ∈ found.fragments, ∀ one ∈ result.cases, P one := by
    intro result member one listed
    rw [(unselected result member).1] at listed
    cases listed
  have follows : Report.schema.Follows (Report.ofRun machine.now found) :=
    Report.follows_ofRun ⟨caseless, by rintro _ ⟨⟩⟩ _
  have timed : found.IsTimed :=
    ⟨⟨_, rfl, false, 0, by decide +kernel, by decide +kernel, one_dvd _⟩, caseless⟩
  let told := ready.withOutput
    (ready.console.output ++ ((Report.ofRun machine.now found).writeIndented ++ "\n"))
  have completes : (reporter.complete found).perform machine ready = (.ok (), told) := by
    rw [Reporter.perform_complete_document rfl timed, Report.checked_eq follows, short]
    rfl
  have resultless : found.caseResults = [] :=
    List.flatMap_eq_nil_iff.mpr fun item member => (unselected item member).1
  refine ⟨told.withOutput (told.console.output ++ remark options found), ?_, rfl, ?_⟩
  · rw [perform_execute unlisted, check, checkWith]
    refine (Action.perform_bind_of_ok (Action.perform_pure reporter) _).trans ?_
    refine (Action.perform_bind_of_ok ran _).trans ?_
    exact (Action.perform_bind_of_ok completes _).trans (perform_conclusion _ _ _ _)
  · rw [Report.isPrinted_iff (Report.isWritable_ofRun timed _) follows]
    exact or_iff_left fun some => some resultless

/-! ## What is printed -/

/-- If programs take brief times, then a program that ends with a number has printed the document of
its run, which follows the schema, and a line feed, and after them only the remark that no case was
selected. So what it printed is a report just if no patterns were given or some case was selected. -/
theorem output_of_execute (brief : ∀ launch, (machine.execute launch).duration.IsBrief)
    (unlisted : options.listOnly = false)
    (returns : (execute settings options (.document none)).perform machine world =
      (.ok code, after)) :
    ∃ found reporter printed,
      ((run settings options settings.fragments Reporter.fragment
          (.ofKind (.document none))).perform machine (filtering world)).1 = .ok (found, reporter) ∧
        code = codeOf options found ∧
        after.console.output = world.console.output ++ printed ∧
        Report.schema.Follows (Report.ofRun machine.now found) ∧
        printed = (Report.ofRun machine.now found).writeIndented ++ "\n" ++ remark options found ∧
        (Report.IsPrinted printed ↔ options.cases = [] ∨ found.caseResults ≠ []) := by
  rw [perform_execute unlisted] at returns
  let compiler := Compiler.ofSettings (options.compilerFor settings)
  have looks : (do let _ ← compiler.find : Action Unit).IsQuiet :=
    .bind Action.isFrame_quietly (compiler.stays_find Action.isFrame_quietly) fun _ =>
      .pure Action.isFrame_quietly ()
  obtain ⟨found, reporter, ran, timed, number, follows, printed⟩ :=
    exists_output_of_checkWith looks compiler.isQuiet_compile (compiler.givesBriefly_compile brief)
      returns
  exact ⟨found, reporter, _, ran, number, printed, follows, rfl,
    Report.isPrinted_iff (Report.isWritable_ofRun timed _) follows⟩

/-- A fragment without cases is reported by its document alone. -/
theorem output_of_execute_caseless :
    ∃ after, (∀ launch, (Sample.machine.execute launch).duration.IsBrief) ∧
      RunOptions.listOnly { writeArtifacts := some false } = false ∧
      (execute { Sample.settings with fragments := [Sample.missing] } { writeArtifacts := some false }
        (.document none)).perform Sample.machine Sample.endlessWorld = (.ok 0, after) ∧
      Report.IsPrinted after.console.output := by
  let settings : Settings := { Sample.settings with fragments := [Sample.missing] }
  let options : RunOptions := { writeArtifacts := some false }
  have brief : ∀ launch, (Sample.machine.execute launch).duration.IsBrief :=
    fun _ => ⟨false, 0, rfl, Nat.zero_le _⟩
  obtain ⟨errors, performed⟩ := loadFrom_perform Sample.machine (filtering Sample.endlessWorld)
    (.ofParts []) [] [Sample.missing]
  let item : FragmentResult := .ofFragment Sample.missing "b.nc" ⟨Sample.missing, "y\n", "inline", []⟩
  have reads : loadedFrom .standard ⟨Sample.endlessTree, []⟩ (.ofParts []) [] [Sample.missing] =
      .ok [item] := by
    simp only [loadedFrom, Sample.fragmentKey_unmarked, Sample.load_unmarked, Except.ok_bind]
    rfl
  have loaded := performed.trans (congrArg (·, _) reads)
  have unselected : ∀ one ∈ [item], IsUnselected options one := by
    rw [List.forall_mem_singleton]
    refine ⟨rfl, fun fragment holds => ?_⟩
    cases holds
    rfl
  have unwritten : options.writesArtifacts settings = false := rfl
  obtain ⟨after, returns, -⟩ :=
    exists_execute_of_unselected rfl unwritten loaded unselected (by decide +kernel)
  obtain ⟨found, reporter, printed, -, -, shown, -, -, whole⟩ := output_of_execute brief rfl returns
  have same : after.console.output = printed := shown.trans String.empty_append
  exact ⟨after, brief, rfl, returns, same ▸ whole.mpr (.inl rfl)⟩

/-- If no case of the sample is selected, what is printed is no report. -/
theorem not_isPrinted_of_execute :
    ∃ after, (∀ launch, (Sample.machine.execute launch).duration.IsBrief) ∧
      RunOptions.listOnly { cases := ["line_3"], writeArtifacts := some false } = false ∧
      Sample.world.console.output = "" ∧
      (execute Sample.settings { cases := ["line_3"], writeArtifacts := some false }
        (.document none)).perform Sample.machine Sample.world = (.ok 1, after) ∧
      ¬Report.IsPrinted after.console.output := by
  let options : RunOptions := { cases := ["line_3"], writeArtifacts := some false }
  obtain ⟨errors, loaded⟩ := Sample.loadFragments_settings
    (rfl : (filtering Sample.world).tree = Sample.tree) rfl
  have unselected : ∀ item ∈ [Sample.item], IsUnselected options item := by
    rw [List.forall_mem_singleton]
    refine ⟨rfl, fun fragment holds => ?_⟩
    cases holds
    decide
  obtain ⟨after, returns, printed, whole⟩ := exists_execute_of_unselected rfl rfl loaded unselected
    (by decide +kernel)
  refine ⟨after, fun _ => ⟨false, 0, rfl, Nat.zero_le _⟩, rfl, rfl, returns, ?_⟩
  have same : after.console.output = (Report.ofRun "" ⟨[Sample.item], .fraction .zero⟩).writeIndented ++
      "\n" ++ remark options ⟨[Sample.item], .fraction .zero⟩ := by
    rw [printed]
    exact congrArg (· ++ _) String.empty_append
  rw [same]
  exact fun spoiled => absurd (whole.mp spoiled) (List.cons_ne_nil _ _)

end Harness

end NegativeCompile
