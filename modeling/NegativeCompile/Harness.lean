import NegativeCompile.Report
import NegativeCompile.Running

/-! # The harness

A whole run on the fragments of a configuration, with its report, or a list of their cases. -/

namespace NegativeCompile

namespace Harness

/-- The line that lists a case. -/
def listLine (fragment : Fragment) (testCase : TestCase) : String :=
  let marker := if testCase.enabled then "" else " (disabled)"
  s!"{fragment.path}:{testCase.span.first}: {testCase.name}{marker}"

/-- The lines that list the selected cases of fragments and the fragments that cannot be read. -/
def listLines (options : RunOptions) (items : List FragmentResult) : List String :=
  ((listedCases items).filter fun (_, testCase) => options.selects testCase).map
      (fun (fragment, testCase) => listLine fragment testCase) ++
    (items.filterMap (·.error)).map fun message => s!"error: {message}"

/-- List the cases of the fragments. -/
def list (settings : Settings) (options : RunOptions) : Action Int := do
  let items ← loadFragments settings.baseDir settings.fragments
  Action.printAll ((listLines options items).map .ok)
  return if items.all (·.error.isNone) then 0 else 1

/-- What is said when no case was selected. -/
def nothingSelected : String := "No cases matched the provided filters."

/-- Check the fragments and report the results, with a way to look for the compiler and a way to
compile jobs. -/
def checkWith (settings : Settings) (options : RunOptions) (kind : ReportKind)
    (find : Action Unit) (compile : Job → Action CompileOutput) : Action Int := do
  let reporter ←
    (Reporter.ofKind kind).start settings.fragments.length (options.jobsFor settings)
  let (result, reported) ←
    runWith settings options find compile settings.fragments Reporter.fragment reporter
  reported.complete result
  if !options.cases.isEmpty && result.caseResults.isEmpty then
    Action.print nothingSelected
    return 1
  return result.exitCode

/-- Check the fragments and report the results. -/
def check (settings : Settings) (options : RunOptions) (kind : ReportKind) : Action Int :=
  let compiler := Compiler.ofSettings (options.compilerFor settings)
  checkWith settings options kind (do let _ ← compiler.find) compiler.compile

/-- List or check the fragments of a configuration; the outcome is the number that a program ends
with. -/
def execute (settings : Settings) (options : RunOptions) (kind : ReportKind) : Action Int := do
  modify fun world => { world with console := { world.console with isFiltered := true } }
  if options.listOnly then list settings options else check settings options kind

end Harness

end NegativeCompile
