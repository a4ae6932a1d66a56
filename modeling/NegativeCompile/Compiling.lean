import NegativeCompile.Diagnostic.Reader
import NegativeCompile.Job
import NegativeCompile.Launching

/-! # Compiling

Running the compiler for a job: the directory of its files is made, the compiler is started, and
what it prints is read as diagnostics. A compiler that takes too long is stopped. -/

namespace NegativeCompile

open Files Number Text

/-- A compiler that jobs are given to, until it is stopped. -/
structure Compiler where
  /-- How it is run. -/
  settings : CompilerSettings
  /-- Whether it has been stopped. -/
  isStopped : Bool
  deriving DecidableEq, Repr, Inhabited

namespace Compiler

/-- A compiler that has not been stopped. -/
def ofSettings (settings : CompilerSettings) : Compiler := ⟨settings, false⟩

/-- The compiler once it has been stopped. -/
def stop (compiler : Compiler) : Compiler := { compiler with isStopped := true }

/-- The path of the compiler, which has to be there. -/
def find (compiler : Compiler) : Action String := do
  let name := compiler.settings.binary
  match findProgram (← read) (← get).tree name with
  | some path => return path
  | none => throw (.infrastructure s!"compiler '{name}' not found or not executable")

/-! ## Variables -/

/-- Set a variable. -/
def setVariable (entry : String × String) : List (String × String) → List (String × String)
  | [] => [entry]
  | first :: rest =>
    if first.1 = entry.1 then entry :: rest else first :: setVariable entry rest

/-- The variables that a compiler sees: those of the machine, a language without translations, and
those of the settings. -/
def environment (compiler : Compiler) (machine : Machine) : List (String × String) :=
  (("LC_ALL", "C") :: compiler.settings.env).foldl
    (fun entries entry => setVariable entry entries) machine.environment

/-! ## Time limits -/

/-- The longest time in seconds that can be counted in billionths. -/
def longestTime : Nat := 9223372036

/-- The longest time in thousandths of a second that can be waited for. -/
def longestWait : Nat := 2147483647

/-- Refuse times that cannot be waited for. -/
def checkWait (time : Binary64) : Except Failure Unit :=
  let thousandths := time.mul (.ofInt 1000)
  match thousandths with
  | .notANumber => .error (.senseless "cannot convert float NaN to integer")
  | .infinite negative =>
    if negative then .ok ()
    else .error (.overflow "cannot convert float infinity to integer")
  | .finite _ _ =>
    if Binary64.lt (.ofInt (longestTime * 1000)) thousandths then
      .error (.overflow "timestamp too large to convert to C _PyTime_t")
    else if Binary64.lt (.ofInt longestWait) thousandths then
      .error (.overflow "timeout is too large")
    else .ok ()

/-- Refuse time limits that cannot be waited for. -/
def checkTimeout (timeout : Seconds) : Except Failure Unit :=
  match timeout with
  | .real value => checkWait value
  | .whole count =>
    let value := Binary64.ofInt count
    if value.isFinite then checkWait value
    else .error (.overflow "int too large to convert to float")

/-- Whether a program is stopped before it can do anything. -/
def isStoppedAtOnce (timeout : Binary64) : Bool := !Binary64.lt .zero timeout

/-- Whether a program does not end in time. -/
def isLate (timeout : Binary64) (ending : Ending) : Bool :=
  isStoppedAtOnce timeout || ending.code.isNone || timeout.lt ending.duration

/-! ## Runs -/

/-- The command for a job. -/
def command (compiler : Compiler) (machine : Machine) (job : Job) : Command where
  name := compiler.settings.binary
  arguments := (Job.arguments compiler.settings job).drop 1
  environment := compiler.environment machine
  workdir := compiler.settings.workdir

/-- The failure of starting the compiler for a job. -/
def launchFailure (compiler : Compiler) (job : Job) : Trouble → Failure
  | .nullCharacter => .ofTrouble .nullCharacter
  | .refusal refusal =>
    if refusal.fault = .missing || refusal.fault = .forbidden then
      .infrastructure
        s!"cannot launch compiler '{compiler.settings.binary}': {refusal.message}"
    else .infrastructure s!"compiler launch failed for {job.label}: {refusal.message}"

/-- What a program prints within a time limit, as text. -/
def printedText (timeout : Binary64) (ending : Ending) : String :=
  let bytes := if isStoppedAtOnce timeout then [] else ending.printed
  String.ofList (unifyNewlines (decodeUtf8Lossy bytes).toList)

/-- The start of the compiler for a job, after its directory has been made. -/
def launch (compiler : Compiler) (job : Job) : Action Launch := do
  if compiler.isStopped then
    throw (.cancelled s!"run cancelled before compiling {job.label}")
  Action.file fun here => makeDirectories here job.directory
  let arguments := Job.arguments compiler.settings job
  let written := " ".intercalate arguments
  Action.note .compiling s!"compiling {job.label}: {written}"
  if compiler.settings.env.any (·.1.contains '=') then
    throw (.senseless "illegal environment variable name")
  match (compiler.command (← read) job).prepare (← Action.surroundings) with
  | .ok launch => return launch
  | .error trouble => throw (compiler.launchFailure job trouble)

/-- Run the compiler for a job. -/
def compile (compiler : Compiler) (job : Job) : Action CompileOutput := do
  let launch ← compiler.launch job
  let timeout := compiler.settings.timeout
  checkTimeout timeout
  let ending := (← read).execute launch
  let late := isLate timeout.value ending
  if late then
    Action.warn .compiling s!"{job.label} exceeded {timeout.written}s, killing compiler"
  let code := if late then none else ending.code
  let text := printedText timeout.value ending
  match CompileOutput.ofText launch.arguments code text ending.duration late with
  | .ok output => return output
  | .error problem => throw (.ofInteger text.toList problem)

/-- Run the compiler for a job and stop it while it runs. -/
def compileStopped (compiler : Compiler) (job : Job) : Action CompileOutput := do
  let _ ← compiler.launch job
  checkTimeout compiler.settings.timeout
  throw (.cancelled s!"run cancelled while compiling {job.label}")

end Compiler

end NegativeCompile
