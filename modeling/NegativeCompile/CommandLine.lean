import NegativeCompile.CommandLine.Commands
import NegativeCompile.CommandLine.Help
import NegativeCompile.CommandLine.Values
import NegativeCompile.Harness
import NegativeCompile.Settings.Loading
import NegativeCompile.Text.Alphanumeric

/-! # The command line

What the program does when it is called with some words, and the number that it ends with. Problems
of the command line and expected failures are reported on the error stream. -/

namespace NegativeCompile.CommandLine

open Files Text

/-! ## Commands -/

/-- Check or list the fragments of a configuration file. -/
def runConfiguration (values : Values) : Action Int := do
  let options : RunOptions :=
    { cases := commaList (values.text "--cases")
      jobs := values.whole? "--jobs"
      timeout := (values.real? "--timeout").map .real
      listOnly := values.flag "--list"
      writeArtifacts := if values.flag "--no-artifacts" then some false else none }
  let kind : ReportKind :=
    if values.text "--report" = documentWord then .documentTo (values.text? "--report-path")
    else .terminal ⟨!values.flag "--no-color", true⟩
  let settings ← Action.loadSettings (values.text "--config")
  Harness.execute settings options kind

/-- The settings for checking a single fragment. -/
def settingsOfValues (values : Values) : Action Settings :=
  let text (name : String) : Datum := .text (values.text name)
  let texts (name : String) : Datum := .list ((values.texts name).map .text)
  Action.assembleSettings
    [("binary", text "--compiler"), ("sources", .list [text sourceName]),
      ("output_dir", text "--output-dir"), ("flags", texts flagsName),
      ("std", ((values.text? "--std").map .text).getD .nothing),
      ("include_dirs", texts "-I"), ("werror", .boolean (values.flag "--werror")),
      ("mode", text "--mode"), ("depfile", .boolean (values.flag "--depfile")),
      ("timeout", ((values.real? "--timeout").map .real).getD .nothing),
      ("jobs", ((values.whole? "--jobs").map .integer).getD .nothing),
      ("header", text "--header")]
    none

/-- Write the generated tests of some results to one file. -/
def writeTests (header target : String) : List FragmentResult → Action Unit
  | [] => return
  | result :: rest => do
    let _ ← Artifact.write result header none (.ofString target)
    writeTests header target rest

/-- Check a single fragment. -/
def checkFragment (values : Values) : Action Int := do
  let settings ← settingsOfValues values
  let options : RunOptions := { writeArtifacts := some false }
  let kind : ReportKind := .terminal ⟨!values.flag "--no-color", true⟩
  let reporter ← (Reporter.ofKind kind).start 1 (options.jobsFor settings)
  let (result, reported) ←
    run settings options settings.fragments Reporter.fragment reporter
  reported.complete result
  let target := values.text "--artifact"
  if target != "" then writeTests (values.text "--header") target result.fragments
  return result.exitCode

/-- A command below the program. -/
structure Subcommand where
  /-- Its name. -/
  name : String
  /-- What can be said to it. -/
  command : Command
  /-- What it does with values. -/
  perform : Values → Action Int

/-- The commands below the program. -/
def subcommands : List Subcommand :=
  [⟨"check", checkCommand, checkFragment⟩, ⟨"run", runCommand, runConfiguration⟩]

/-! ## Answers -/

/-- The description of the program or of one of its commands. -/
def helpOf (command : Command) : String :=
  if command = program then
    command.help (subcommands.map fun sub => (sub.name, sub.command.about.headD ""))
  else command.help []

/-- Answer an inquiry. -/
def answer (command : Command) (subject : Inquiry) : Action Int := do
  Action.print (match subject with
    | .help => helpOf command
    | .version => s!"{programName} {version}")
  return 0

/-- Report why the words after a command are not accepted. -/
def refuse (command : Command) (halt : Halt) : Action Int :=
  match halt with
  | .failure failure => throw failure
  | .usage problem => do
    Action.printError (problem.report command)
    return 2

/-- Report an expected failure in one line; other failures stay failures. -/
def reportFailure (action : Action Int) : Action Int :=
  tryCatch action fun failure => do
    if !failure.isExpected then throw failure
    Action.printError s!"Error: {failure.message}"
    return 1

/-! ## Calls -/

/-- Call a command below the program with the words after its name. -/
def Subcommand.call (sub : Subcommand) (words : List String) : Action Int := do
  match Request.ofWords (← Action.surroundings) sub.command words with
  | .error halt => refuse sub.command halt
  | .ok (.inquiry subject) => answer sub.command subject
  | .ok (.work values []) => reportFailure (sub.perform values)
  | .ok (.work _ others) => refuse sub.command (.usage (.argumentsUnwanted others))

/-- Whether a word starts as an option does, which no name of a command does. -/
def startsAsOption (word : String) : Bool :=
  match word.toList with
  | [] => false
  | c :: _ => !isAlphanumeric c

/-- Refuse a name that no command has, unless it is an option after two dashes. -/
def refuseName (name : String) (words : List String) : Action Int := do
  let unknown := refuse program
    (.usage (.unknownCommand name (nearMatches name (subcommands.map (·.name)))))
  if !startsAsOption name then unknown
  else
    match Request.ofWords (← Action.surroundings) program (name :: words) with
    | .error halt => refuse program halt
    | .ok (.inquiry subject) => answer program subject
    | .ok (.work _ _) => unknown

/-- Make the dialects known and go on, with records as they are asked for. -/
def prepared (isVerbose : Bool) (next : Action Int) : Action Int := do
  modify fun world => { world with logging := .labelled isVerbose }
  let outcome ← reportFailure do
    Action.bootstrap
    return 0
  if outcome = 0 then next else return outcome

/-- Call the program with some words. -/
def execute (words : List String) : Action Int := do
  if words.isEmpty then
    Action.printError (helpOf program)
    return 2
  match Request.ofWords (← Action.surroundings) program words with
  | .error halt => refuse program halt
  | .ok (.inquiry subject) => answer program subject
  | .ok (.work _ []) => refuse program (.usage .commandMissing)
  | .ok (.work values (name :: rest)) =>
    match subcommands.find? (·.name = name) with
    | none => refuseName name rest
    | some sub => prepared (values.flag "--verbose") (sub.call rest)

end NegativeCompile.CommandLine
