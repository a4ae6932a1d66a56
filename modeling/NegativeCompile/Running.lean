import NegativeCompile.Artifact
import NegativeCompile.Compiling
import NegativeCompile.Outcome
import NegativeCompile.Verdict
import NegativeCompile.Wildcard
import NegativeCompile.World

/-! # Runs

Checking fragments: they are read, the jobs of the selected cases are compiled, and each selected
case is judged by the output of its own job or of the job of its whole fragment. -/

namespace NegativeCompile.Artifact

open Files Text

/-! ## Writing generated tests

The file of a fragment is written below the output directory, or where it is asked for. -/

/-- Where the file of a fragment is written. -/
def targetOf (result : FragmentResult) (outputDir : Path) : Path :=
  outputDir.append (result.key ++ ".cc")

/-- Write a file and the directories above it. -/
def writeFile (target : Path) (text : String) (start : Place) :
    ExceptT Failure (StateM Tree) Unit := do
  let filing : Filing Unit := do
    makeDirectories start target.parent
    writeBytes start target.toString (encodeUtf8 text)
  match ← filing.run with
  | .ok () => return
  | .error (.refusal refusal) =>
    throw (.runtime s!"Failed to write artifact {target}: {refusal.message}")
  | .error trouble => throw (.ofTrouble trouble)

/-- Write the file of a fragment, and note where it is. -/
def write (result : FragmentResult) (header : String) (suite : Option String) (target : Path) :
    Action FragmentResult := do
  Action.withTree (writeFile target (render result header suite))
  Action.note .writing s!"wrote {target}"
  return { result with artifact := some target }

end NegativeCompile.Artifact

namespace NegativeCompile

open Files Number

/-! ## Loading -/

namespace FragmentResult

/-- The result of a fragment that was read and not yet checked. -/
def ofFragment (path : Path) (key : String) (fragment : Fragment) : FragmentResult :=
  ⟨path, key, some fragment, [], none, none⟩

/-- The result of a fragment that could not be read. -/
def ofError (path : Path) (key message : String) : FragmentResult :=
  ⟨path, key, none, [], some message, none⟩

end FragmentResult

/-- Refuse a path with the key of another one; `known` holds the paths so far with their keys. -/
def checkKey (known : List (String × Path)) (path : Path) (key : String) :
    Except Failure Unit :=
  match known.lookup key with
  | some other =>
    if other = path then .ok ()
    else .error (.configuration
      s!"Fragments {other} and {path} map to the same output key '{key}'")
  | none => .ok ()

/-- Read the fragment at a path; annotations that cannot be read give a result of their own. -/
def loadOne (path : Path) (key : String) : Action FragmentResult :=
  tryCatch (FragmentResult.ofFragment path key <$> Action.loadFragment path) fun failure =>
    match failure with
    | .annotations _ _ _ => do
      Action.note .running s!"structural error in {path}: {failure.message}"
      return .ofError path key failure.message
    | _ => throw failure

/-- Read the fragments at some paths; `known` holds the paths before them with their keys. -/
def loadFrom (base : Path) (known : List (String × Path)) :
    List Path → Action (List FragmentResult)
  | [] => return []
  | path :: rest => do
    let key ← (← Action.surroundings).fragmentKey path (some base)
    checkKey known path key
    let result ← loadOne path key
    return result :: (← loadFrom base ((key, path) :: known) rest)

/-- Read the fragments at some paths. -/
def loadFragments (base : Path) (paths : List Path) : Action (List FragmentResult) :=
  loadFrom base [] paths

/-! ## Selection -/

namespace RunOptions

/-- Whether a case is selected: its name matches one of the patterns, if there are any. -/
def selects (options : RunOptions) (testCase : TestCase) : Bool :=
  options.cases.isEmpty ||
    options.cases.any fun pattern => Wildcard.matchesName pattern testCase.name

/-- The number of compilers run at a time. -/
def jobsFor (options : RunOptions) (settings : Settings) : Int :=
  match options.jobs with
  | some jobs => if jobs = 0 then settings.jobs else jobs
  | none => settings.jobs

/-- How the compiler is run. -/
def compilerFor (options : RunOptions) (settings : Settings) : CompilerSettings :=
  match options.timeout with
  | some timeout => { settings.compiler with timeout := timeout }
  | none => settings.compiler

/-- Whether results are turned into tests. -/
def writesArtifacts (options : RunOptions) (settings : Settings) : Bool :=
  options.writeArtifacts.getD settings.artifact.enabled

/-- The jobs that the selected cases of a fragment need. -/
def jobsOf (options : RunOptions) (outputDir : Path) (item : FragmentResult) : List Job :=
  match item.fragment with
  | none => []
  | some fragment =>
    if fragment.enabledCases.any options.selects then
      (Job.plan fragment item.key outputDir).filter fun job =>
        job.testCase.all options.selects
    else []

end RunOptions

/-- The jobs that the selected cases of fragments need. -/
def plannedJobs (settings : Settings) (options : RunOptions) (items : List FragmentResult) :
    List Job :=
  items.flatMap (options.jobsOf settings.outputDir)

/-- The cases of fragments, each with its fragment, in source order. -/
def listedCases (items : List FragmentResult) : List (Fragment × TestCase) :=
  items.flatMap fun item =>
    match item.fragment with
    | some fragment => fragment.cases.map fun testCase => (fragment, testCase)
    | none => []

/-! ## Compiling -/

/-- What tells a job from others, with its compiler run. -/
abbrev CompiledJobs := List ((String × Option String) × Compilation)

/-- Compile jobs, numbered from `serial` on. -/
def compileFrom (compile : Job → Action CompileOutput) (serial : Nat) :
    List Job → Action CompiledJobs
  | [] => return []
  | job :: rest => do
    let output ← compile job
    return (job.identity, ⟨serial, output⟩) :: (← compileFrom compile (serial + 1) rest)

/-- Compile jobs by some workers; a failure ends it and is put on record. -/
def compileJobs (compile : Job → Action CompileOutput) (workers : Int) (jobs : List Job) :
    Action CompiledJobs := do
  Action.note .running s!"running {jobs.length} compile job(s) with {workers} worker(s)"
  if workers ≤ 0 then throw (.senseless "max_workers must be greater than 0")
  try compileFrom compile 0 jobs
  catch failure =>
    Action.warn .running s!"aborting run, terminating compilers: {failure.message}"
    throw failure

/-- Compile the jobs of a run; a compiler is looked for only if there are any. -/
def compilePlanned (settings : Settings) (options : RunOptions) (find : Action Unit)
    (compile : Job → Action CompileOutput) (jobs : List Job) : Action CompiledJobs :=
  if jobs.isEmpty then pure [] else do
    find
    compileJobs compile (options.jobsFor settings) jobs

/-! ## Judging -/

/-- The result of a case that was judged. -/
def CaseResult.ofVerdict (verdict : Verdict) (compilation : Compilation) : CaseResult where
  testCase := verdict.testCase
  status := verdict.status
  duration := .fraction compilation.output.duration
  verdict := some verdict
  compilation := some compilation
  reason := verdict.explain (some compilation.output)

/-- The result of a case that is disabled. -/
def CaseResult.ofDisabled (testCase : TestCase) : CaseResult :=
  ⟨testCase, .skipped, .zero, none, none, "disabled"⟩

/-- The result of a selected case, if its job was compiled; `whole` holds the verdicts on the whole
fragment, with the compiler run that they rest on. -/
def collectCase (compiled : CompiledJobs) (key : String)
    (whole : Option (Compilation × List Verdict)) (testCase : TestCase) :
    Except Failure (Option CaseResult) := do
  if !testCase.enabled then return some (.ofDisabled testCase)
  let found := whole.bind fun (compilation, verdicts) =>
    (verdicts.reverse.find? (·.testCase.name = testCase.name)).map (·, compilation)
  match found with
  | some (verdict, compilation) => return some (.ofVerdict verdict compilation)
  | none =>
    match compiled.lookup (key, some testCase.name) with
    | none => return none
    | some compilation =>
      return some (.ofVerdict (← Verdict.judgeSingle testCase compilation.output) compilation)

/-- The results of some cases. -/
def collectCases (compiled : CompiledJobs) (key : String)
    (whole : Option (Compilation × List Verdict)) :
    List TestCase → Except Failure (List CaseResult)
  | [] => .ok []
  | testCase :: rest => do
    let result ← collectCase compiled key whole testCase
    return result.toList ++ (← collectCases compiled key whole rest)

/-- The verdicts on a whole fragment, if it was compiled as a whole. -/
def judgeFragment (surroundings : Surroundings) (workdir : Option Path)
    (compiled : CompiledJobs) (key : String) (fragment : Fragment) :
    Except Failure (Option (Compilation × List Verdict)) :=
  match compiled.lookup (key, none) with
  | none => .ok none
  | some compilation => do
    return some (compilation,
      ← Verdict.judgeWhole surroundings fragment compilation.output workdir)

/-- A fragment with the results of its selected cases. -/
def collect (surroundings : Surroundings) (options : RunOptions) (workdir : Option Path)
    (compiled : CompiledJobs) (item : FragmentResult) : Except Failure FragmentResult :=
  match item.fragment with
  | none => .ok item
  | some fragment => do
    let whole ← judgeFragment surroundings workdir compiled item.key fragment
    let selected := fragment.cases.filter options.selects
    return { item with cases := ← collectCases compiled item.key whole selected }

/-! ## Whole runs -/

/-- What is to be done after each fragment: it is given the result, its number from one, and the
number of all fragments. -/
abbrev Observer (σ : Type) := σ → FragmentResult → Nat → Nat → Action σ

/-- Judge fragments, numbered from `index` on, and tell an observer of each. -/
def collectAll {σ : Type} (options : RunOptions) (workdir : Option Path)
    (compiled : CompiledJobs) (observe : Observer σ) (total : Nat) (state : σ) (index : Nat) :
    List FragmentResult → Action (List FragmentResult × σ)
  | [] => return ([], state)
  | item :: rest => do
    let result ← collect (← Action.surroundings) options workdir compiled item
    let next ← observe state result index total
    let (others, last) ←
      collectAll options workdir compiled observe total next (index + 1) rest
    return (result :: others, last)

/-- Write the generated tests of fragments. -/
def writeArtifacts (settings : Settings) : List FragmentResult → Action (List FragmentResult)
  | [] => return []
  | item :: rest => do
    let target := Artifact.targetOf item settings.outputDir
    let written ←
      Artifact.write item settings.artifact.header settings.artifact.suite target
    return written :: (← writeArtifacts settings rest)

/-- Write the generated tests of fragments if results are to be turned into tests. -/
def writeRequested (settings : Settings) (options : RunOptions) (results : List FragmentResult) :
    Action (List FragmentResult) :=
  if options.writesArtifacts settings then writeArtifacts settings results else pure results

/-- How many seconds some compiler runs took. -/
def totalDuration (compiled : CompiledJobs) : Binary64 :=
  compiled.foldl (fun sum entry => sum.add entry.2.output.duration) .zero

/-- Judge fragments by the compiled jobs, tell an observer of each, and write the generated tests. -/
def settle {σ : Type} (settings : Settings) (options : RunOptions) (compiled : CompiledJobs)
    (observe : Observer σ) (state : σ) (items : List FragmentResult) :
    Action (List FragmentResult × σ) := do
  let (results, last) ←
    collectAll options settings.compiler.workdir compiled observe items.length state 1 items
  let written ← writeRequested settings options results
  return (written, last)

/-- Read fragments and compile the jobs of their selected cases. -/
def prepare (settings : Settings) (options : RunOptions) (find : Action Unit)
    (compile : Job → Action CompileOutput) (paths : List Path) :
    Action (List FragmentResult × CompiledJobs) := do
  let items ← loadFragments settings.baseDir paths
  let compiled ←
    compilePlanned settings options find compile (plannedJobs settings options items)
  return (items, compiled)

/-- Check fragments with a way to look for the compiler and a way to compile jobs; `arrange` is the
order in which the jobs are done. -/
def runArranged {σ : Type} (settings : Settings) (options : RunOptions) (find : Action Unit)
    (compile : Job → Action CompileOutput) (arrange : CompiledJobs → CompiledJobs)
    (paths : List Path) (observe : Observer σ) (state : σ) : Action (RunResult × σ) := do
  let (items, compiled) ← prepare settings options find compile paths
  let (results, last) ← settle settings options (arrange compiled) observe state items
  return (⟨results, .fraction (totalDuration compiled)⟩, last)

/-- Check fragments with a way to look for the compiler and a way to compile jobs. -/
def runWith {σ : Type} (settings : Settings) (options : RunOptions) (find : Action Unit)
    (compile : Job → Action CompileOutput) (paths : List Path) (observe : Observer σ)
    (state : σ) : Action (RunResult × σ) :=
  runArranged settings options find compile id paths observe state

/-- Check fragments. -/
def run {σ : Type} (settings : Settings) (options : RunOptions) (paths : List Path)
    (observe : Observer σ) (state : σ) : Action (RunResult × σ) :=
  let compiler := Compiler.ofSettings (options.compilerFor settings)
  runWith settings options (do let _ ← compiler.find) compiler.compile paths observe state

end NegativeCompile
