import NegativeCompile.Job
import NegativeCompile.Json
import NegativeCompile.Number.Binary64.Written
import NegativeCompile.Verdict

/-! # Outcomes

What a run found out about cases and fragments, and how often each outcome occurred. -/

namespace NegativeCompile

open Files Number

/-! ## Durations

How long something took, in seconds. A duration is shown in the way in which it was given: as a
whole number, as a floating point number or as a truth value that stands for one second or none. -/

/-- A number of seconds. -/
inductive Duration where
  /-- A whole number. -/
  | whole (count : Int)
  /-- A floating point number. -/
  | fraction (value : Binary64)
  /-- One second or none. -/
  | truth (value : Bool)
  deriving DecidableEq, Repr, Inhabited

namespace Duration

/-- No time at all. -/
def zero : Duration := .fraction .zero

/-- The same duration in thousandths of a second. -/
def milliseconds : Duration → Duration
  | .whole count => .whole (count * 1000)
  | .fraction value => .fraction (value.mul (.ofInt 1000))
  | .truth value => .whole (if value then 1000 else 0)

/-- The floating point number nearest to a whole number, unless that is too large. -/
def nearest? (count : Int) : Option Binary64 :=
  let value := Binary64.ofInt count
  if value.isFinite then some value else none

/-- A duration with two decimals, unless it is too large for a floating point number. -/
def twoDecimals? : Duration → Option String
  | .whole count => (nearest? count).map (·.twoDecimals)
  | .fraction value => some value.twoDecimals
  | .truth value => some (Binary64.ofInt (if value then 1 else 0)).twoDecimals

/-- A duration in a document. -/
def toJson : Duration → Json
  | .whole count => .integer count
  | .fraction value => .real value
  | .truth value => .boolean value

end Duration

/-! ## Results -/

/-- A compiler run with a number that tells it from others: cases that were judged by one run share
it. -/
structure Compilation where
  /-- The number. -/
  serial : Nat
  /-- What the compiler gave. -/
  output : CompileOutput
  deriving DecidableEq, Repr, Inhabited

/-- What a run found out about a case. -/
structure CaseResult where
  /-- The case. -/
  testCase : TestCase
  /-- How its test ended. -/
  status : Status
  /-- How many seconds the compiler took. -/
  duration : Duration
  /-- How the compiler's diagnostics line up with its expectations. -/
  verdict : Option Verdict
  /-- The compiler run. -/
  compilation : Option Compilation
  /-- Why it did not pass. -/
  reason : String
  deriving DecidableEq, Repr, Inhabited

namespace CaseResult

/-- Whether the case passed. -/
def passed (result : CaseResult) : Bool := result.status = .passed

/-- Whether the case was skipped. -/
def skipped (result : CaseResult) : Bool := result.status = .skipped

/-- Whether the case failed. -/
def failed (result : CaseResult) : Bool := result.status.isFailure

/-- How a case is shown by a test runner. -/
def describe (result : CaseResult) : String :=
  let reason := if result.reason.isEmpty then [] else [s!"reason: {result.reason}"]
  let expected := result.testCase.expectations.map fun expectation =>
    s!"expected: {expectation.describe}"
  let output := match result.compilation with
    | none => []
    | some compilation =>
      ["command: " ++ " ".intercalate compilation.output.arguments, "actual output:"] ++
        (Text.lines compilation.output.output.toList).map fun line =>
          "  " ++ String.ofList line
  "\n".intercalate
    (s!"{result.testCase.name}: {result.status.name}" :: reason ++ expected ++ output)

end CaseResult

/-- How often each outcome occurred. -/
structure Counts where
  /-- All cases. -/
  total : Nat
  /-- The cases that passed. -/
  passed : Nat
  /-- The cases that failed. -/
  failed : Nat
  /-- The cases that were skipped. -/
  skipped : Nat
  deriving DecidableEq, Repr, Inhabited

/-- The counts of some results. -/
def Counts.ofResults (results : List CaseResult) : Counts where
  total := results.length
  passed := results.countP (·.passed)
  failed := results.countP (·.failed)
  skipped := results.countP (·.skipped)

/-- What a run found out about a fragment. -/
structure FragmentResult where
  /-- Where the fragment is. -/
  path : Path
  /-- Its key. -/
  key : String
  /-- The fragment, if it could be read. -/
  fragment : Option Fragment
  /-- The results of its cases, in source order. -/
  cases : List CaseResult
  /-- Why it could not be read. -/
  error : Option String
  /-- Where the generated test is. -/
  artifact : Option Path
  deriving DecidableEq, Repr, Inhabited

namespace FragmentResult

/-- The name of the fragment's file. -/
def name (result : FragmentResult) : String := result.path.name

/-- Whether the fragment could be read and none of its cases failed. -/
def passed (result : FragmentResult) : Bool :=
  result.error.isNone && !result.cases.any (·.failed)

/-- The counts of its cases. -/
def counts (result : FragmentResult) : Counts := .ofResults result.cases

end FragmentResult

/-- What a run found out. -/
structure RunResult where
  /-- The results of the fragments. -/
  fragments : List FragmentResult
  /-- How many seconds it took. -/
  duration : Duration
  deriving DecidableEq, Repr, Inhabited

namespace RunResult

/-- Whether all fragments passed. -/
def passed (result : RunResult) : Bool := result.fragments.all (·.passed)

/-- The results of all cases. -/
def caseResults (result : RunResult) : List CaseResult := result.fragments.flatMap (·.cases)

/-- The counts of all cases. -/
def counts (result : RunResult) : Counts := .ofResults result.caseResults

/-- The number of fragments that could not be read. -/
def errors (result : RunResult) : Nat := result.fragments.countP (·.error.isSome)

/-- The number that a program ends with after a run. -/
def exitCode (result : RunResult) : Int := if result.passed then 0 else 1

end RunResult

end NegativeCompile
