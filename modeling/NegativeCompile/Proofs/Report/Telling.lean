import NegativeCompile.Proofs.Action
import NegativeCompile.Proofs.Except
import NegativeCompile.Report

/-! # What reports for reading tell

A report for reading gathers the failed cases of a run until the run is complete. As it forgets them
when another run starts, what it prints depends on this run only (`Reporters.whole_terminal`): the
parts of the report of a run (`Terminal.reportEntries`) are given by what the run found out. There is
one status for each case of a fragment that could be read, and the details are about those of them that
failed. Lines with a status and the heading of the details can be told from all other lines, whatever
fragments, cases and compilers are called and say. -/

namespace NegativeCompile

open Text

variable {style : Terminal.Style} {result : FragmentResult} {run : RunResult} {found : CaseResult}
variable {index total : Nat} {jobs : Int}

/-! ## Parts of reports -/

namespace Terminal

/-- The results of the cases of fragments that could be read. -/
def readableCases (fragments : List FragmentResult) : List CaseResult :=
  (fragments.filter (·.error.isNone)).flatMap (·.cases)

/-- The failed cases of fragments that could be read, with their fragments. -/
def failuresIn (fragments : List FragmentResult) : List FailedCase := fragments.flatMap failuresOf

/-- A part of a report. -/
inductive Entry where
  /-- A line that is about no case, or says more about one. -/
  | plain (line : Line)
  /-- The status of a case. -/
  | status (result : CaseResult)
  /-- The details of a failure. -/
  | failure (failed : FailedCase)

namespace Entry

/-- The lines of a part of a report. -/
def lines (style : Style) : Entry → List Line
  | .plain line => [line]
  | .status result => [statusLine style result]
  | .failure failed => (failureLines style failed).map .ok

/-- The case whose status a part of a report gives. -/
def status? : Entry → Option CaseResult
  | .status result => some result
  | _ => none

/-- The failure that a part of a report is about. -/
def failure? : Entry → Option FailedCase
  | .failure failed => some failed
  | _ => none

end Entry

/-- The parts that tell of a case. -/
def caseEntries (style : Style) (result : CaseResult) : List Entry :=
  .status result :: ((caseLines style result).drop 1).map .plain

/-- The parts that tell of a fragment. -/
def fragmentEntries (style : Style) (result : FragmentResult) (index total : Nat) : List Entry :=
  if result.error.isSome then (fragmentLines style result index total).map .plain
  else ((fragmentLines style result index total).take 1).map .plain ++
    result.cases.flatMap (caseEntries style)

/-- The parts that tell of fragments, counted from an index on. -/
def fragmentsEntries (style : Style) (index total : Nat) : List FragmentResult → List Entry
  | [] => []
  | result :: rest =>
    fragmentEntries style result index total ++ fragmentsEntries style (index + 1) total rest

/-- The heading of the details. -/
def heading (style : Style) : String := style.paint .red "Failure details:"

/-- The parts with the details of failures. -/
def detailEntries (style : Style) (failures : List FailedCase) : List Entry :=
  if failures.isEmpty then [] else .plain (.ok (heading style)) :: failures.map .failure

/-- The details of failures are their heading and one part for each. -/
theorem mem_detailEntries {style : Style} {failures : List FailedCase} {entry : Entry} :
    entry ∈ detailEntries style failures ↔ failures ≠ [] ∧
      (entry = .plain (.ok (heading style)) ∨ ∃ failed ∈ failures, entry = .failure failed) := by
  rw [detailEntries]
  cases failures <;> simp [eq_comm]

/-- The parts of the report of a run that come before the details. -/
def frontEntries (style : Style) (run : RunResult) (jobs : Int) : List Entry :=
  .plain (.ok (startLine style run.fragments.length jobs)) ::
    (fragmentsEntries style 1 run.fragments.length run.fragments ++ [.plain (summaryLine style run)])

/-- The parts of the report of a run. -/
def reportEntries (style : Style) (run : RunResult) (jobs : Int) : List Entry :=
  frontEntries style run jobs ++ detailEntries style (failuresIn run.fragments)

/-- A plain line is the only line of its part. -/
theorem flatMap_lines_plain (lines : List Line) :
    (lines.map Entry.plain).flatMap (Entry.lines style) = lines := by
  rw [List.flatMap_map]
  exact List.flatMap_singleton' lines

/-- The lines of the parts that tell of a case. -/
theorem lines_caseEntries (style : Style) (found : CaseResult) :
    (caseEntries style found).flatMap (Entry.lines style) = caseLines style found := by
  rw [caseEntries, List.flatMap_cons, flatMap_lines_plain]
  rfl

/-- The lines of the parts that tell of a fragment. -/
theorem lines_fragmentEntries (style : Style) (result : FragmentResult) (index total : Nat) :
    (fragmentEntries style result index total).flatMap (Entry.lines style) =
      fragmentLines style result index total := by
  rw [fragmentEntries]
  split
  next => exact flatMap_lines_plain _
  next readable =>
    have unbroken : result.error = none := by simpa using readable
    rw [List.flatMap_append, flatMap_lines_plain, List.flatMap_assoc]
    simp only [lines_caseEntries, fragmentLines, unbroken, List.take_succ_cons, List.take_zero,
      List.singleton_append]

/-- The lines of the last parts of a report. -/
theorem lines_detailEntries (style : Style) (run : RunResult) (failures : List FailedCase) :
    summaryLine style run :: (detailEntries style failures).flatMap (Entry.lines style) =
      endLines style run failures := by
  rw [endLines, detailEntries]
  split
  · rfl
  · rw [List.flatMap_cons, List.flatMap_map, List.map_cons, List.map_flatMap]
    rfl

/-! ## Cases and failures -/

/-- Plain lines give no status. -/
theorem filterMap_status?_plain (lines : List Line) :
    (lines.map Entry.plain).filterMap Entry.status? = [] := by
  rw [List.filterMap_map]
  exact List.filterMap_eq_nil_iff.mpr fun _ _ => rfl

/-- Plain lines are about no failure. -/
theorem filterMap_failure?_plain (lines : List Line) :
    (lines.map Entry.plain).filterMap Entry.failure? = [] := by
  rw [List.filterMap_map]
  exact List.filterMap_eq_nil_iff.mpr fun _ _ => rfl

/-- The parts that tell of a fragment give the status of each case, if it could be read. -/
theorem filterMap_status?_fragmentEntries (style : Style) (result : FragmentResult)
    (index total : Nat) :
    (fragmentEntries style result index total).filterMap Entry.status? = readableCases [result] := by
  have each : ∀ found, (caseEntries style found).filterMap Entry.status? = [found] := fun found =>
    congrArg (found :: ·) (filterMap_status?_plain _)
  rw [fragmentEntries, readableCases]
  cases unread : result.error with
  | some message =>
    rw [Option.isSome_some, if_pos rfl, filterMap_status?_plain]
    simp [unread]
  | none =>
    rw [Option.isSome_none, if_neg Bool.false_ne_true, List.filterMap_append, filterMap_status?_plain,
      List.filterMap_flatMap]
    simp [each, unread]

/-- The parts that tell of a fragment are about no failure. -/
theorem filterMap_failure?_fragmentEntries (style : Style) (result : FragmentResult)
    (index total : Nat) :
    (fragmentEntries style result index total).filterMap Entry.failure? = [] := by
  have each : ∀ found, (caseEntries style found).filterMap Entry.failure? = [] := fun found =>
    filterMap_failure?_plain _
  rw [fragmentEntries]
  split
  · exact filterMap_failure?_plain _
  · rw [List.filterMap_append, filterMap_failure?_plain, List.nil_append]
    exact List.filterMap_flatMap .. |>.trans (List.flatMap_eq_nil_iff.mpr fun found _ => each found)

/-- The parts that tell of fragments give the status of each case of those that could be read. -/
theorem filterMap_status?_fragmentsEntries (style : Style) (index total : Nat)
    (results : List FragmentResult) :
    (fragmentsEntries style index total results).filterMap Entry.status? = readableCases results := by
  induction results generalizing index with
  | nil => rfl
  | cons result rest ih =>
    have split : readableCases (result :: rest) = readableCases [result] ++ readableCases rest := by
      rw [readableCases, readableCases, readableCases, ← List.flatMap_append, ← List.filter_append]
      rfl
    rw [fragmentsEntries, List.filterMap_append, filterMap_status?_fragmentEntries, ih, split]

/-- The parts that tell of fragments are about no failure. -/
theorem filterMap_failure?_fragmentsEntries (style : Style) (index total : Nat)
    (results : List FragmentResult) :
    (fragmentsEntries style index total results).filterMap Entry.failure? = [] := by
  induction results generalizing index with
  | nil => rfl
  | cons result rest ih =>
    rw [fragmentsEntries, List.filterMap_append, filterMap_failure?_fragmentEntries, ih,
      List.append_nil]

/-- The report of a run gives the status of each case of the fragments that could be read. -/
theorem filterMap_status?_reportEntries (style : Style) (run : RunResult) (jobs : Int) :
    (reportEntries style run jobs).filterMap Entry.status? = readableCases run.fragments := by
  have details : ∀ failures, (detailEntries style failures).filterMap Entry.status? = [] := by
    intro failures
    refine List.filterMap_eq_nil_iff.mpr fun entry member => ?_
    rcases (mem_detailEntries.mp member).2 with rfl | ⟨failed, -, rfl⟩ <;> rfl
  rw [reportEntries, List.filterMap_append, details, List.append_nil, frontEntries]
  simp only [List.filterMap_cons, List.filterMap_append, List.filterMap_nil, List.append_nil,
    Entry.status?, filterMap_status?_fragmentsEntries]

/-- What comes before the details is about no failure. -/
theorem filterMap_failure?_frontEntries (style : Style) (run : RunResult) (jobs : Int) :
    (frontEntries style run jobs).filterMap Entry.failure? = [] := by
  rw [frontEntries]
  simp only [List.filterMap_cons, List.filterMap_append, List.filterMap_nil, List.append_nil,
    Entry.failure?, filterMap_failure?_fragmentsEntries]

/-- No failure is told in detail before the details. -/
theorem failure_not_mem_frontEntries {style : Style} {run : RunResult} {jobs : Int}
    {failed : FailedCase} : .failure failed ∉ frontEntries style run jobs := by
  intro front
  have none : failed ∈ (frontEntries style run jobs).filterMap Entry.failure? :=
    List.mem_filterMap.mpr ⟨_, front, rfl⟩
  rw [filterMap_failure?_frontEntries] at none
  cases none

/-- The failures of a run are the failed ones of the cases of fragments that could be read. -/
theorem map_snd_failuresIn (fragments : List FragmentResult) :
    (failuresIn fragments).map (·.2) = (readableCases fragments).filter (·.failed) := by
  induction fragments with
  | nil => rfl
  | cons result rest ih =>
    rw [failuresIn, List.flatMap_cons, List.map_append, ← failuresIn, ih, readableCases, readableCases,
      List.filter_cons, failuresOf]
    cases result.error <;> simp [Function.comp_def]

end Terminal

/-! ## Printing a report -/

/-- A line that can be shown is printed before the others. -/
theorem Action.printAll_cons_ok (text : String) (more : List (Except Failure String)) :
    Action.printAll (.ok text :: more) = (do Action.print text; Action.printAll more) := rfl

/-- Lines are printed one after another. -/
theorem Action.printAll_append (lines more : List (Except Failure String)) :
    Action.printAll (lines ++ more) = (do Action.printAll lines; Action.printAll more) := by
  induction lines with
  | nil => simp [Action.printAll]
  | cons line rest ih => simp [Action.printAll, ih]

namespace Reporters

open Terminal

/-- Reporting the results of fragments prints what tells of them and adds their failures. -/
theorem fragments_terminal (style : Style) (total : Nat) (results : List FragmentResult) (index : Nat)
    (failures : List FailedCase) :
    fragments index total [⟨.terminal style, failures⟩] results = (do
      Action.printAll ((fragmentsEntries style index total results).flatMap (Entry.lines style))
      return [⟨.terminal style, failures ++ failuresIn results⟩]) := by
  induction results generalizing index failures with
  | nil => simp [fragments, fragmentsEntries, Action.printAll, failuresIn]
  | cons result rest ih =>
    rw [fragmentsEntries, List.flatMap_append, lines_fragmentEntries, Action.printAll_append]
    simp [fragments, fragment, Reporter.fragment, ih, failuresIn]

/-- A report for reading prints its parts, whatever failures it knew of before, and then knows of the
failures of the run. -/
theorem whole_terminal (style : Style) (run : RunResult) (jobs : Int) (failures : List FailedCase) :
    whole run jobs [⟨.terminal style, failures⟩] = (do
      Action.printAll ((reportEntries style run jobs).flatMap (Entry.lines style))
      return [⟨.terminal style, failuresIn run.fragments⟩]) := by
  have parts : (reportEntries style run jobs).flatMap (Entry.lines style) =
      .ok (startLine style run.fragments.length jobs) ::
        ((fragmentsEntries style 1 run.fragments.length run.fragments).flatMap (Entry.lines style) ++
          endLines style run (failuresIn run.fragments)) := by
    rw [reportEntries, frontEntries, ← lines_detailEntries]
    simp [Entry.lines]
  rw [parts, Action.printAll_cons_ok, Action.printAll_append]
  simp [whole, start, Reporter.start, fragments_terminal, complete, Reporter.complete]

/-- Report runs one after another in the same ways. -/
def wholes : List (RunResult × Int) → List Reporter → Action (List Reporter)
  | [], reporters => return reporters
  | (run, jobs) :: rest, reporters => do wholes rest (← whole run jobs reporters)

/-- Report runs for reading one after another, each by a report on which nothing has been said. -/
def afresh (style : Style) : List (RunResult × Int) → Action Unit
  | [] => return
  | (run, jobs) :: rest => do
    let _ ← whole run jobs [.ofKind (.terminal style)]
    afresh style rest

/-- One report for reading tells of runs as new ones do, whatever it told of before. -/
theorem wholes_terminal (style : Style) (runs : List (RunResult × Int)) (failures : List FailedCase) :
    (do let _ ← wholes runs [⟨.terminal style, failures⟩]) = afresh style runs := by
  induction runs generalizing failures with
  | nil => simp [wholes, afresh]
  | cons sent rest ih =>
    obtain ⟨run, jobs⟩ := sent
    have others := ih (failuresIn run.fragments)
    simp only [wholes, afresh, Reporter.ofKind, whole_terminal, bind_assoc, pure_bind] at others ⊢
    rw [others]

end Reporters

/-! ## Telling lines apart -/

namespace Terminal

/-- How a line with a status starts. -/
def statusStart (style : Style) (status : Status) : String :=
  "  " ++ style.paint (colourOf status) (padded labelWidth (labelOf status)) ++ " "

/-- Whether a line looks like one with a status that tests end with: it starts with the label of one, and
ends with a duration. -/
def isStatusLine (style : Style) (line : String) : Bool :=
  Status.all.any (fun status => (statusStart style status).toList.isPrefixOf line.toList) &&
    " ms)".toList.isSuffixOf line.toList

/-- A line with a status that can be shown starts with the status and ends with a duration. -/
theorem exists_of_statusLine {text : String} (shown : statusLine style found = .ok text) :
    ∃ duration, text = statusStart style found.status ++
      (found.testCase.name ++ " (" ++ duration ++ " ms)") := by
  obtain ⟨duration, -, equal⟩ := Except.bind_eq_ok_iff.mp shown
  refine ⟨duration, (Except.ok.inj equal).symm.trans ?_⟩
  simp [statusStart, toString, String.append_assoc]

/-- A line with a status that tests end with looks like one. -/
theorem isStatusLine_of_statusLine {text : String} (ordinary : found.status ∈ Status.all)
    (shown : statusLine style found = .ok text) : isStatusLine style text = true := by
  obtain ⟨duration, rfl⟩ := exists_of_statusLine shown
  rw [isStatusLine, Bool.and_eq_true, List.any_eq_true, List.isSuffixOf_iff_suffix]
  refine ⟨⟨found.status, ordinary, List.isPrefixOf_iff_prefix.mpr ?_⟩, ?_⟩
  · rw [String.toList_append]
    exact List.prefix_append _ _
  · rw [String.toList_append, String.toList_append, ← List.append_assoc]
    exact List.suffix_append _ _

/-- A line with a status that tests end with starts with two blanks and something else. -/
theorem third_of_statusStart (style : Style) {status : Status} (ordinary : status ∈ Status.all) :
    (statusStart style status).toList.take 2 = [' ', ' '] ∧
      (statusStart style status).toList[2]?.any (· ≠ ' ') = true := by
  obtain ⟨useColour, showOutput⟩ := style
  revert status
  cases useColour <;> cases showOutput <;> decide

/-- A line that looks like one with a status starts with two blanks and something else. -/
theorem third_of_isStatusLine {text : String} (like : isStatusLine style text = true) :
    ∃ c rest, text.toList = ' ' :: ' ' :: c :: rest ∧ c ≠ ' ' := by
  rw [isStatusLine, Bool.and_eq_true, List.any_eq_true] at like
  obtain ⟨⟨status, ordinary, starts⟩, -⟩ := like
  obtain ⟨rest, split⟩ := List.isPrefixOf_iff_prefix.mp starts
  obtain ⟨blanks, third⟩ := third_of_statusStart style ordinary
  match start : (statusStart style status).toList, blanks, third with
  | _ :: _ :: c :: more, blanks, third =>
    rw [start] at split
    simp only [List.take_succ_cons, List.take_zero, List.cons.injEq, and_true] at blanks
    obtain ⟨rfl, rfl⟩ := blanks
    exact ⟨c, more ++ rest, split.symm, by simpa using third⟩

/-- A line says something besides a status: it starts with a bracket or at least three blanks. -/
def IsAside (text : String) : Prop :=
  text.toList.head? = some '[' ∨ text.toList.take 3 = [' ', ' ', ' ']

/-- A line at the start or at the end of a run: it is painted and starts with an S. -/
def IsBorder (style : Style) (text : String) : Prop :=
  ∃ colour said, text = style.paint colour said ∧ said.toList.head? = some 'S'

/-- What stands in a line that starts with no blank, or with three, is no status. -/
theorem isStatusLine_of_isAside {text : String} (aside : IsAside text) :
    isStatusLine style text = false := by
  refine Bool.eq_false_iff.mpr fun like => ?_
  obtain ⟨c, rest, split, other⟩ := third_of_isStatusLine like
  rcases aside with bracket | blanks
  · rw [split] at bracket
    cases bracket
  · rw [split] at blanks
    simp only [List.take_succ_cons, List.take_zero, List.cons.injEq, and_true, true_and] at blanks
    exact other blanks

/-- A painted text that starts with no blank is no status. -/
theorem isStatusLine_paint {said : String} {c : Char} (start : said.toList.head? = some c)
    (filled : c ≠ ' ') (colour : Colour) : isStatusLine style (style.paint colour said) = false := by
  refine Bool.eq_false_iff.mpr fun like => ?_
  obtain ⟨_, rest, split, -⟩ := third_of_isStatusLine like
  rw [Style.paint] at split
  split at split
  · rw [String.toList_append, String.toList_append] at split
    cases colour <;> exact absurd (List.cons.inj split).1 (by decide)
  · rw [split] at start
    exact filled (Option.some.inj start).symm

/-- A line at the start or at the end of a run is not the heading of the details. -/
theorem ne_heading_of_isBorder {text : String} (border : IsBorder style text) :
    text ≠ heading style := by
  obtain ⟨colour, said, rfl, start⟩ := border
  obtain ⟨rest, spelled⟩ := List.head?_eq_some_iff.mp start
  intro same
  have spelt := congrArg String.toList same
  rw [heading, Style.paint, Style.paint] at spelt
  split at spelt
  · cases colour <;> simp [Colour.code, spelled] at spelt
  · simp [spelled] at spelt

/-- The heading starts with no blank and no bracket. -/
theorem head_heading (style : Style) :
    (heading style).toList.head? ≠ some ' ' ∧ (heading style).toList.head? ≠ some '[' := by
  obtain ⟨useColour, showOutput⟩ := style
  cases useColour <;> cases showOutput <;> decide

/-- A plain line for a fragment says something besides a status. -/
theorem isAside_of_mem_fragmentEntries {text : String}
    (member : Entry.plain (.ok text) ∈ fragmentEntries style result index total) : IsAside text := by
  rw [fragmentEntries] at member
  cases unread : result.error with
  | some message =>
    simp only [unread, Option.isSome_some, ↓reduceIte, fragmentLines, List.map_cons, List.map_nil,
      List.mem_cons, Entry.plain.injEq, Except.ok.injEq, List.not_mem_nil, or_false] at member
    rcases member with rfl | rfl
    · exact .inl (by simp [toString])
    · exact .inr (by simp [toString])
  | none =>
    simp only [unread, Option.isSome_none, Bool.false_eq_true, ↓reduceIte, List.mem_append] at member
    rcases member with first | later
    · simp only [fragmentLines, unread, List.take_succ_cons, List.take_zero, List.map_cons,
        List.map_nil, List.mem_singleton, Entry.plain.injEq, Except.ok.injEq] at first
      rw [first]
      exact .inl (by simp [toString])
    · obtain ⟨found, -, listed⟩ := List.mem_flatMap.mp later
      rw [caseEntries, caseLines, List.mem_cons, List.drop_one, List.tail_cons] at listed
      rcases listed with same | listed
      · cases same
      · split at listed
        · simp only [List.map_cons, List.map_nil, List.mem_singleton, Entry.plain.injEq,
            Except.ok.injEq] at listed
          rw [listed]
          exact .inr (by simp [toString])
        · cases listed

/-- A plain line for fragments says something besides a status. -/
theorem isAside_of_mem_fragmentsEntries {results : List FragmentResult} {text : String}
    (member : Entry.plain (.ok text) ∈ fragmentsEntries style index total results) :
    IsAside text := by
  induction results generalizing index with
  | nil => cases member
  | cons result rest ih =>
    rcases List.mem_append.mp member with first | later
    · exact isAside_of_mem_fragmentEntries first
    · exact ih later

/-- A plain line before the details says something besides a status, or is at the start or at the end of
the run. -/
theorem isAside_or_isBorder_of_mem_frontEntries {text : String}
    (member : Entry.plain (.ok text) ∈ frontEntries style run jobs) :
    IsAside text ∨ IsBorder style text := by
  rw [frontEntries, List.mem_cons, List.mem_append, List.mem_singleton] at member
  rcases member with start | told | summary
  · rw [Except.ok.inj (Entry.plain.inj start), startLine]
    exact .inr ⟨.cyan, _, rfl, by simp [toString]⟩
  · exact .inl (isAside_of_mem_fragmentsEntries told)
  · have shown := Entry.plain.inj summary
    rw [summaryLine] at shown
    cases lasted : shownDuration run.duration with
    | error failure =>
      rw [lasted] at shown
      cases shown
    | ok duration =>
      rw [lasted] at shown
      rw [Except.ok.inj shown]
      exact .inr ⟨_, _, rfl, by simp [toString]⟩

/-- The word for a failure ends with no bracket. -/
theorem last_name_of_isFailure {status : Status} (fails : status.isFailure = true) :
    status.name.toList.getLast?.any (· ≠ ')') = true := by
  cases status with
  | other name => cases fails
  | _ => decide

/-- The details of a failed case look like no status. -/
theorem isStatusLine_failureLines {failed : FailedCase} {text : String}
    (fails : failed.2.failed = true) (member : text ∈ failureLines style failed) :
    isStatusLine style text = false := by
  obtain ⟨fragment, found⟩ := failed
  rw [failureLines, List.cons_append, List.mem_cons, List.mem_append] at member
  rcases member with rfl | expected | compiled
  · -- The first line ends with the word for a failure, and no duration does.
    refine Bool.eq_false_iff.mpr fun like => ?_
    rw [isStatusLine, Bool.and_eq_true, List.isSuffixOf_iff_suffix] at like
    obtain ⟨before, ends⟩ := like.2
    have last := congrArg List.getLast? ends
    have other := last_name_of_isFailure fails
    rw [String.toList_append, List.getLast?_append, List.getLast?_append] at last
    cases word : found.status.name.toList.getLast? with
    | none => simp [word] at other
    | some c =>
      rw [word, Option.any_some, decide_eq_true_eq] at other
      change some ')' = found.status.name.toList.getLast?.or _ at last
      rw [word] at last
      exact other (Option.some.inj last).symm
  · obtain ⟨expectation, -, rfl⟩ := List.mem_map.mp expected
    exact isStatusLine_of_isAside (.inr (by simp [toString]))
  · cases ran : found.compilation with
    | none => simp [ran] at compiled
    | some compilation =>
      simp only [ran, compilationLines] at compiled
      refine isStatusLine_of_isAside (.inr ?_)
      rcases List.mem_append.mp compiled with first | shown
      · simp only [List.mem_cons, List.not_mem_nil, or_false] at first
        rcases first with rfl | rfl <;> simp [toString]
      · split at shown
        · rcases List.mem_cons.mp shown with rfl | listed
          · decide
          · obtain ⟨line, -, rfl⟩ := List.mem_map.mp listed
            simp
        · cases shown

/-- A line of a report looks like one with a status just if it is one, if all statuses are such that
tests end with. -/
theorem isStatusLine_of_mem_reportEntries {entry : Entry} {text : String}
    (ordinary : ∀ found ∈ readableCases run.fragments, found.status ∈ Status.all)
    (member : entry ∈ reportEntries style run jobs) (line : .ok text ∈ entry.lines style) :
    isStatusLine style text = entry.status?.isSome := by
  cases entry with
  | status found =>
    have listed : found ∈ readableCases run.fragments := by
      rw [← filterMap_status?_reportEntries style run jobs]
      exact List.mem_filterMap.mpr ⟨_, member, rfl⟩
    exact isStatusLine_of_statusLine (ordinary found listed) (List.mem_singleton.mp line).symm
  | plain shown =>
    obtain rfl := List.mem_singleton.mp line
    rcases List.mem_append.mp member with front | details
    · rcases isAside_or_isBorder_of_mem_frontEntries front with aside | ⟨colour, said, rfl, start⟩
      · exact isStatusLine_of_isAside aside
      · exact isStatusLine_paint start (by decide) colour
    · rcases (mem_detailEntries.mp details).2 with same | ⟨_, -, same⟩
      · rw [Except.ok.inj (Entry.plain.inj same), heading]
        exact isStatusLine_paint (c := 'F') (by decide) (by decide) .red
      · cases same
  | failure failed =>
    -- Details are only given of cases that failed, so no line of them looks like a status.
    obtain ⟨_, written, same⟩ := List.mem_map.mp line
    obtain rfl := Except.ok.inj same
    have listed : failed ∈ failuresIn run.fragments := by
      rcases List.mem_append.mp member with front | details
      · exact absurd front failure_not_mem_frontEntries
      · rcases (mem_detailEntries.mp details).2 with same | ⟨_, known, same⟩
        · cases same
        · cases same
          exact known
    have fails : failed.2 ∈ (failuresIn run.fragments).map (·.2) := List.mem_map_of_mem listed
    rw [map_snd_failuresIn] at fails
    exact isStatusLine_failureLines (List.mem_filter.mp fails).2 written

/-- Among the lines of some parts those that look like statuses are those with a status, if this is so
for each part. -/
theorem filter_isStatusLine {entries : List Entry} {texts : List String}
    (told : entries.flatMap (Entry.lines style) = texts.map .ok)
    (each : ∀ entry ∈ entries, ∀ text, .ok text ∈ entry.lines style →
      isStatusLine style text = entry.status?.isSome) :
    (texts.filter (isStatusLine style)).map .ok =
      (entries.filterMap Entry.status?).map (statusLine style) := by
  induction entries generalizing texts with
  | nil =>
    obtain rfl := List.map_eq_nil_iff.mp told.symm
    rfl
  | cons entry rest ih =>
    rw [List.flatMap_cons] at told
    obtain ⟨own, others, rfl, here, there⟩ := List.map_eq_append_iff.mp told.symm
    have apart : (own.filter (isStatusLine style)).map .ok =
        ([entry].filterMap Entry.status?).map (statusLine style) := by
      have alike : ∀ text ∈ own, isStatusLine style text = entry.status?.isSome :=
        fun text member => each entry List.mem_cons_self text (here ▸ List.mem_map_of_mem member)
      cases entry with
      | plain line =>
        rw [List.filter_eq_nil_iff.mpr fun text member => Bool.eq_false_iff.mp (alike text member)]
        rfl
      | status found =>
        rw [List.filter_eq_self.mpr alike, here]
        rfl
      | failure failed =>
        rw [List.filter_eq_nil_iff.mpr fun text member => Bool.eq_false_iff.mp (alike text member)]
        rfl
    rw [List.filter_append, List.map_append, apart, ih there.symm fun other member =>
      each other (List.mem_cons_of_mem _ member), ← List.map_append, ← List.filterMap_append]
    rfl

/-- The heading of the details stands in the report of a run just if there are failures. -/
theorem heading_mem_iff {texts : List String}
    (told : (reportEntries style run jobs).flatMap (Entry.lines style) = texts.map .ok) :
    heading style ∈ texts ↔ failuresIn run.fragments ≠ [] := by
  have stands : heading style ∈ texts ↔ ∃ entry ∈ reportEntries style run jobs,
      .ok (heading style) ∈ entry.lines style := by
    rw [← List.mem_flatMap, told]
    simp
  rw [stands]
  constructor
  · -- Without failures there is only the front of the report, and no line of it is the heading.
    rintro ⟨entry, member, line⟩ empty
    rw [reportEntries, empty, detailEntries, List.isEmpty_nil, if_pos rfl, List.append_nil] at member
    cases entry with
    | plain shown =>
      obtain rfl := List.mem_singleton.mp line
      rcases isAside_or_isBorder_of_mem_frontEntries member with aside | border
      · rcases aside with bracket | blanks
        · exact (head_heading style).2 bracket
        · refine (head_heading style).1 ?_
          have kept := List.head?_take (l := (heading style).toList) (i := 3)
          rw [if_neg (by decide), blanks] at kept
          exact kept.symm
      · exact ne_heading_of_isBorder border rfl
    | status found =>
      obtain ⟨duration, shown⟩ := exists_of_statusLine (List.mem_singleton.mp line).symm
      refine (head_heading style).1 ?_
      rw [shown]
      simp [statusStart]
    | failure failed => exact failure_not_mem_frontEntries member
  · intro some
    refine ⟨.plain (.ok (heading style)), List.mem_append_right _ ?_, List.mem_singleton_self _⟩
    exact mem_detailEntries.mpr ⟨some, .inl rfl⟩

end Terminal

namespace Told

/-- A case with a status, which took no time. -/
def tested (name : String) (status : Status) (reason : String) : CaseResult :=
  ⟨⟨name, ⟨1, 1⟩, [], true, none⟩, status, .zero, none, none, reason⟩

/-- A run with a fragment that could not be read, and one with cases that passed, failed and were
skipped. -/
def mixed : RunResult :=
  ⟨[⟨.ofParts ["a.nc"], "a.nc", none, [], some "missing", none⟩,
    ⟨.ofParts ["b.nc"], "b.nc", none, [tested "one" .passed "", tested "two" .timeout "slow",
      tested "three" .skipped "disabled"], none, none⟩], .zero⟩

/-- The report of the run. -/
def texts : List String :=
  ["Starting run: 2 fragment(s) jobs=1", "[1/2] /a.nc -> ERROR", "    error: missing",
    "[2/2] /b.nc (?, 3 case(s))", "  PASS        one (0.00 ms)", "  TIMEOUT     two (0.00 ms)",
    "      reason: slow", "  SKIP        three (0.00 ms)",
    "Summary: fragments=2 total=3 passed=1 failed=1 skipped=1 errors=1 duration=0.00s",
    "Failure details:", "  b.nc:two -> timeout"]

end Told

namespace Reporters

open Terminal

/-- A report for reading that tells of any runs, one after another, prints what new reports print, one
for each run. What it prints for a run has one status for each case of the fragments that could be read,
in order, and ends with the details of those of them that failed. If all its lines can be shown, the
heading of the details is one of them just if there are failures; and if all statuses are such that
tests end with, the lines that look like statuses are those of these cases. -/
theorem told_of_runs (style : Style) :
    (∀ runs failures, (do let _ ← wholes runs [⟨.terminal style, failures⟩]) = afresh style runs) ∧
    ∀ (run : RunResult) (jobs : Int),
      (∀ failures, whole run jobs [⟨.terminal style, failures⟩] = (do
        Action.printAll ((reportEntries style run jobs).flatMap (Entry.lines style))
        return [⟨.terminal style, failuresIn run.fragments⟩])) ∧
      (reportEntries style run jobs).filterMap Entry.status? = readableCases run.fragments ∧
      (∃ front, reportEntries style run jobs =
          front ++ detailEntries style (failuresIn run.fragments) ∧
        front.filterMap Entry.failure? = []) ∧
      (failuresIn run.fragments).map (·.2) = (readableCases run.fragments).filter (·.failed) ∧
      ∀ texts : List String,
        (reportEntries style run jobs).flatMap (Entry.lines style) = texts.map .ok →
        (heading style ∈ texts ↔ ∃ found ∈ readableCases run.fragments, found.failed = true) ∧
        ((∀ found ∈ readableCases run.fragments, found.status ∈ Status.all) →
          (texts.filter (isStatusLine style)).map .ok =
            (readableCases run.fragments).map (statusLine style)) := by
  refine ⟨fun runs failures => wholes_terminal style runs failures, fun run jobs =>
    ⟨fun failures => whole_terminal style run jobs failures, filterMap_status?_reportEntries style run jobs,
      ⟨_, rfl, filterMap_failure?_frontEntries style run jobs⟩, map_snd_failuresIn _,
      fun texts told => ⟨?_, fun ordinary => ?_⟩⟩⟩
  · have failing : failuresIn run.fragments ≠ [] ↔
        (readableCases run.fragments).filter (·.failed) ≠ [] := by
      rw [← map_snd_failuresIn, ne_eq, ne_eq, List.map_eq_nil_iff]
    rw [heading_mem_iff told, failing, ne_eq, List.filter_eq_nil_iff]
    simp
  · rw [← filterMap_status?_reportEntries style run jobs]
    exact filter_isStatusLine told fun entry member text line =>
      isStatusLine_of_mem_reportEntries ordinary member line

/-- The lines of the report of the mixed run. -/
theorem lines_mixed : (reportEntries ⟨false, true⟩ Told.mixed 1).flatMap (Entry.lines ⟨false, true⟩) =
    Told.texts.map .ok :=
  Except.eq_map_ok_of_toOption (by decide +kernel)

/-- The report of the mixed run has the heading of the details, and a line for each of the three cases of
the fragment that could be read. -/
theorem told_of_runs_mixed :
    (reportEntries ⟨false, true⟩ Told.mixed 1).flatMap (Entry.lines ⟨false, true⟩) =
      Told.texts.map .ok ∧
    heading ⟨false, true⟩ ∈ Told.texts ∧
    (∀ found ∈ readableCases Told.mixed.fragments, found.status ∈ Status.all) ∧
    (Told.texts.filter (isStatusLine ⟨false, true⟩)).map .ok =
      (readableCases Told.mixed.fragments).map (statusLine ⟨false, true⟩) := by
  have ordinary : ∀ found ∈ readableCases Told.mixed.fragments, found.status ∈ Status.all := by decide
  obtain ⟨heads, lists⟩ := ((told_of_runs ⟨false, true⟩).2 Told.mixed 1).2.2.2.2 Told.texts lines_mixed
  exact ⟨lines_mixed, heads.mpr ⟨Told.tested "two" .timeout "slow", by decide, rfl⟩, ordinary, lists ordinary⟩

end Reporters

end NegativeCompile
