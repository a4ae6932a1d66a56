import NegativeCompile.Number.Binary64.Written
import NegativeCompile.Outcome
import NegativeCompile.Text.Casing

/-! # Reports for reading

The lines that a run prints: one at the start, some for each fragment, and a summary with the
details of all failures at the end. -/

namespace NegativeCompile.Terminal

open Text Number

/-! ## Colours -/

/-- A colour of a text. -/
inductive Colour where
  /-- For failures. -/
  | red
  /-- For success. -/
  | green
  /-- For what was left out. -/
  | yellow
  /-- For the start. -/
  | cyan
  deriving DecidableEq, Repr

/-- The code that switches a colour on. -/
def Colour.code : Colour → String
  | .red => "\x1b[31m"
  | .green => "\x1b[32m"
  | .yellow => "\x1b[33m"
  | .cyan => "\x1b[36m"

/-- The code that switches colours off. -/
def resetCode : String := "\x1b[0m"

/-- What a report for reading shows. -/
structure Style where
  /-- Whether there are colours. -/
  useColour : Bool
  /-- Whether the output of the compiler is shown for failures. -/
  showOutput : Bool
  deriving DecidableEq, Repr, Inhabited

/-- A text in a colour. -/
def Style.paint (style : Style) (colour : Colour) (text : String) : String :=
  if style.useColour then colour.code ++ text ++ resetCode else text

/-! ## Lines -/

/-- The label of a status. -/
def labelOf : Status → String
  | .passed => "PASS"
  | .expectationMismatch => "MISMATCH"
  | .unexpectedDiagnostic => "UNEXPECTED"
  | .unexpectedSuccess => "COMPILED"
  | .compilerCrash => "CRASH"
  | .timeout => "TIMEOUT"
  | .skipped => "SKIP"
  | .other name => upperString name

/-- The colour of a status. -/
def colourOf : Status → Colour
  | .passed => .green
  | .skipped => .yellow
  | _ => .red

/-- The least width of a label. -/
def labelWidth : Nat := 11

/-- A text filled up with blanks to a width. -/
def padded (width : Nat) (text : String) : String :=
  text ++ String.ofList (List.replicate (width - text.length) ' ')

/-- A line, or why it cannot be shown. -/
abbrev Line := Except Failure String

/-- A duration with two decimals. -/
def shownDuration (duration : Duration) : Line :=
  match duration.twoDecimals? with
  | some text => .ok text
  | none => .error (.overflow "int too large to convert to float")

/-- The line at the start of a run. -/
def startLine (style : Style) (total : Nat) (jobs : Int) : String :=
  style.paint .cyan s!"Starting run: {total} fragment(s) jobs={jobs}"

/-- The line that gives the status of a case. -/
def statusLine (style : Style) (result : CaseResult) : Line := do
  let label := style.paint (colourOf result.status) (padded labelWidth (labelOf result.status))
  let duration ← shownDuration result.duration.milliseconds
  return s!"  {label} {result.testCase.name} ({duration} ms)"

/-- The lines for a case. -/
def caseLines (style : Style) (result : CaseResult) : List Line :=
  statusLine style result ::
    if result.failed && !result.reason.isEmpty then [.ok s!"      reason: {result.reason}"] else []

/-- The lines for a fragment. -/
def fragmentLines (style : Style) (result : FragmentResult) (index total : Nat) : List Line :=
  match result.error with
  | some message =>
    let label := style.paint .red "ERROR"
    [.ok s!"[{index}/{total}] {result.path} -> {label}", .ok s!"    error: {message}"]
  | none =>
    let dialect := match result.fragment with
      | some fragment => fragment.dialect
      | none => "?"
    .ok s!"[{index}/{total}] {result.path} ({dialect}, {result.cases.length} case(s))" ::
      result.cases.flatMap (caseLines style)

/-- A failed case with its fragment. -/
abbrev FailedCase := FragmentResult × CaseResult

/-- The failed cases of a fragment that could be read. -/
def failuresOf (result : FragmentResult) : List FailedCase :=
  if result.error.isSome then []
  else (result.cases.filter (·.failed)).map fun found => (result, found)

/-- The lines that show what the compiler did. -/
def compilationLines (style : Style) (output : CompileOutput) : List String :=
  let shown := trimRight output.output.toList
  let body := if shown.isEmpty then ["<no output>".toList] else lines shown
  let command := " ".intercalate output.arguments
  [s!"    command: {command}",
    s!"    exit code: {Verdict.writtenCode output.returnCode}"] ++
    if style.showOutput then
      "    actual output:" :: body.map fun line => "      " ++ String.ofList line
    else []

/-- The lines with the details of a failure. -/
def failureLines (style : Style) (failure : FailedCase) : List String :=
  let (fragment, result) := failure
  s!"  {fragment.name}:{result.testCase.name} -> {result.status.name}" ::
    (result.testCase.expectations.map fun expectation =>
      s!"    expected: {expectation.describe}") ++
    match result.compilation with
    | none => []
    | some compilation => compilationLines style compilation.output

/-- The line with the counts of a run. -/
def summaryLine (style : Style) (run : RunResult) : Line := do
  let counts := run.counts
  let duration ← shownDuration run.duration
  return style.paint (if run.passed then .green else .red)
    (s!"Summary: fragments={run.fragments.length} total={counts.total} " ++
      s!"passed={counts.passed} failed={counts.failed} skipped={counts.skipped} " ++
      s!"errors={run.errors} duration={duration}s")

/-- The lines at the end of a run. -/
def endLines (style : Style) (run : RunResult) (failures : List FailedCase) : List Line :=
  let details := style.paint .red "Failure details:" :: failures.flatMap (failureLines style)
  summaryLine style run :: if failures.isEmpty then [] else details.map .ok

end NegativeCompile.Terminal
