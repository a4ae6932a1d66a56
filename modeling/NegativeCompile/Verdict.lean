import NegativeCompile.Attribution
import NegativeCompile.Diagnostic.Reader
import NegativeCompile.Fragment

/-! # Verdicts

How the diagnostics of a compiler run line up with what a case expects, and the reason that is given
for a case that did not pass. A case is judged by a compiler run of its own, or all cases of a fragment
are judged by one. -/

namespace NegativeCompile

/-! ## Statuses

How the test of a case ended. -/

/-- How the test of a case ended. -/
inductive Status where
  /-- The compiler said all that was expected. -/
  | passed
  /-- Something expected was not said. -/
  | expectationMismatch
  /-- An error was not expected. -/
  | unexpectedDiagnostic
  /-- The code was accepted. -/
  | unexpectedSuccess
  /-- The compiler broke down. -/
  | compilerCrash
  /-- The compiler took too long. -/
  | timeout
  /-- The case is disabled. -/
  | skipped
  /-- A status that no test ends with. -/
  | other (name : String)
  deriving DecidableEq, Repr, Inhabited

namespace Status

/-- The word for a status. -/
def name : Status → String
  | .passed => "passed"
  | .expectationMismatch => "expectation-mismatch"
  | .unexpectedDiagnostic => "unexpected-diagnostic"
  | .unexpectedSuccess => "unexpected-success"
  | .compilerCrash => "compiler-crash"
  | .timeout => "timeout"
  | .skipped => "skipped"
  | .other name => name

/-- The statuses that tests end with. -/
def all : List Status :=
  [.passed, .expectationMismatch, .unexpectedDiagnostic, .unexpectedSuccess, .compilerCrash,
    .timeout, .skipped]

/-- The status of a word. -/
def ofName (word : String) : Status := (all.find? (·.name = word)).getD (.other word)

/-- Whether a status is a failure. -/
def isFailure : Status → Bool
  | .expectationMismatch => true
  | .unexpectedDiagnostic => true
  | .unexpectedSuccess => true
  | .compilerCrash => true
  | .timeout => true
  | _ => false

end Status

/-! ## Verdicts -/

/-- How a compiler run lines up with what a case expects. -/
structure Verdict where
  /-- The case. -/
  testCase : TestCase
  /-- How its test ended. -/
  status : Status
  /-- The expectations that were met, each with the diagnostic that met it. -/
  matched : List (Expectation × Diagnostic)
  /-- The expectations that were not met. -/
  unmatched : List Expectation
  /-- The errors that were not expected. -/
  unexpected : List Diagnostic
  /-- The patterns that match nowhere in the output. -/
  missingPatterns : List String
  deriving DecidableEq, Repr, Inhabited

namespace Verdict

/-- The verdict on a case that needs no look at the diagnostics. -/
def plain (testCase : TestCase) (status : Status) : Verdict :=
  ⟨testCase, status, [], [], [], []⟩

/-- Whether a case passed. -/
def passed (verdict : Verdict) : Bool := verdict.status = .passed

/-- The status that a compiler run imposes on every case, whatever it printed. -/
def imposedStatus? (output : CompileOutput) : Option Status :=
  if output.timedOut then some .timeout
  else if output.crashed then some .compilerCrash
  else none

/-- A return code as it is shown. -/
def writtenCode (code : Option Int) : String :=
  match code with
  | some number => toString number
  | none => "None"

/-- The parts of the reason for a case whose diagnostics do not line up. -/
def mismatches (verdict : Verdict) : List String :=
  verdict.unmatched.map (fun expectation => s!"expected {expectation.describe} was not emitted") ++
    verdict.unexpected.map fun diagnostic => s!"unexpected diagnostic: {diagnostic.render}"

/-- The reason why a case did not pass. -/
def explain (verdict : Verdict) (output : Option CompileOutput) : String :=
  match verdict.status with
  | .passed => ""
  | .timeout => "compiler timed out and was killed"
  | .compilerCrash =>
    s!"compiler crashed (exit code {writtenCode (output.bind (·.returnCode))})"
  | .unexpectedSuccess => "code compiled without errors but was expected to fail"
  | _ => "; ".intercalate verdict.mismatches

/-! ## Single cases

Judging a case by a compiler run of its own: every pattern must match somewhere in what the compiler
printed. -/

/-- The first diagnostic whose line an expectation matches. -/
def firstRendered (expectation : Expectation) :
    List Diagnostic → Except Failure (Option Diagnostic)
  | [] => .ok none
  | diagnostic :: rest => do
    if ← expectation.matchesText diagnostic.render then return some diagnostic
    else firstRendered expectation rest

/-- Which expectations match the line of some diagnostic, and which match nowhere in the output. -/
def search (output : CompileOutput) :
    List Expectation → Except Failure (List (Expectation × Diagnostic) × List Expectation)
  | [] => .ok ([], [])
  | expectation :: rest => do
    if ← expectation.matchesText output.output then
      let hit ← firstRendered expectation output.diagnostics
      let (matched, unmatched) ← search output rest
      return match hit with
        | some diagnostic => ((expectation, diagnostic) :: matched, unmatched)
        | none => (matched, unmatched)
    else
      let (matched, unmatched) ← search output rest
      return (matched, expectation :: unmatched)

/-- The verdict on a case by a compiler run of its own. -/
def judgeSingle (testCase : TestCase) (output : CompileOutput) : Except Failure Verdict :=
  match imposedStatus? output with
  | some status => .ok (plain testCase status)
  | none =>
    if output.returnCode = some 0 then .ok (plain testCase .unexpectedSuccess)
    else do
      let (matched, unmatched) ← search output testCase.expectations
      let status := if unmatched.isEmpty then Status.passed else .expectationMismatch
      return ⟨testCase, status, matched, unmatched, [], unmatched.map (·.text)⟩

/-! ## Whole fragments

Judging all cases of a fragment by one compiler run. Every error has to be expected by some case: a
single stray error fails every case that would pass otherwise. -/

/-- The diagnostics that are about the fragment. -/
def localDiagnostics (surroundings : Surroundings) (fragment : Fragment)
    (workdir : Option Files.Path) : List Diagnostic → Except Failure (List Diagnostic)
  | [] => .ok []
  | diagnostic :: rest => do
    let isLocal ← surroundings.sameFile diagnostic.file fragment.path workdir
    let others ← localDiagnostics surroundings fragment workdir rest
    return if isLocal then diagnostic :: others else others

/-- Whether some expectation accepts a diagnostic. -/
def someAccepts (diagnostic : Diagnostic) : List Expectation → Except Failure Bool
  | [] => .ok false
  | expectation :: rest => do
    if ← expectation.accepts diagnostic then return true else someAccepts diagnostic rest

/-- The errors that are not about the fragment or that no expectation accepts. -/
def strayErrors (here : List Diagnostic) (expectations : List Expectation) :
    List Diagnostic → Except Failure (List Diagnostic)
  | [] => .ok []
  | diagnostic :: rest => do
    let expected ←
      if here.contains diagnostic then someAccepts diagnostic expectations else pure false
    let others ← strayErrors here expectations rest
    return if expected then others else diagnostic :: others

/-- The first diagnostic that an expectation accepts. -/
def firstAccepted (expectation : Expectation) :
    List Diagnostic → Except Failure (Option Diagnostic)
  | [] => .ok none
  | diagnostic :: rest => do
    if ← expectation.accepts diagnostic then return some diagnostic
    else firstAccepted expectation rest

/-- Which expectations are met by which diagnostics, and which are not met. -/
def lineUp (here : List Diagnostic) :
    List Expectation → Except Failure (List (Expectation × Diagnostic) × List Expectation)
  | [] => .ok ([], [])
  | expectation :: rest => do
    let hit ← firstAccepted expectation here
    let (matched, unmatched) ← lineUp here rest
    return match hit with
      | some diagnostic => ((expectation, diagnostic) :: matched, unmatched)
      | none => (matched, expectation :: unmatched)

/-- The verdict on one case, given the diagnostics about its fragment and the stray errors. -/
def judgeCase (here stray : List Diagnostic) (testCase : TestCase) :
    Except Failure Verdict := do
  let (matched, unmatched) ← lineUp here testCase.expectations
  let status :=
    if !unmatched.isEmpty then Status.expectationMismatch
    else if !stray.isEmpty then .unexpectedDiagnostic
    else .passed
  return ⟨testCase, status, matched, unmatched, stray, []⟩

/-- The verdicts on the enabled cases of a fragment by one compiler run, in source order. -/
def judgeWhole (surroundings : Surroundings) (fragment : Fragment) (output : CompileOutput)
    (workdir : Option Files.Path) : Except Failure (List Verdict) :=
  let cases := fragment.enabledCases
  match imposedStatus? output with
  | some status => .ok (cases.map (plain · status))
  | none =>
    if output.returnCode = some 0 && output.diagnostics.isEmpty then
      .ok (cases.map (plain · .unexpectedSuccess))
    else do
      let here ← localDiagnostics surroundings fragment workdir output.diagnostics
      let expectations := cases.flatMap (·.expectations)
      let stray ← strayErrors here expectations output.errors
      cases.mapM (judgeCase here stray)

end Verdict

end NegativeCompile
