import NegativeCompile.Console
import NegativeCompile.Extension
import NegativeCompile.Attribution

/-! # Worlds

What a program finds and what it changes. A machine stays as it is; a world is changed by actions,
which may fail, and what was done before a failure stays done. -/

namespace NegativeCompile

open Files Number

/-- The start of a program. -/
structure Launch where
  /-- Where the program is. -/
  program : Place
  /-- Its name and its arguments, as given. -/
  arguments : List String
  /-- The variables it sees. -/
  environment : List (String × String)
  /-- The directory it runs in. -/
  workdir : Place
  deriving DecidableEq, Repr, Inhabited

/-- How a program ends when it is left alone. -/
structure Ending where
  /-- What it prints on either stream. -/
  printed : List UInt8
  /-- The number it ends with, if it ends; a negative one is a signal. -/
  code : Option Int
  /-- How many seconds it takes. -/
  duration : Binary64
  deriving DecidableEq, Repr, Inhabited

/-- What a program finds and cannot change. -/
structure Machine where
  /-- The current directory. -/
  here : Place
  /-- The variables. -/
  environment : List (String × String)
  /-- The home directories of users. -/
  homes : List (String × String)
  /-- The modules that can be loaded. -/
  extensions : List Extension
  /-- The present time, as reports give it. -/
  now : String
  /-- What happens when a program is started. -/
  execute : Launch → Ending

/-- The value of a variable. -/
def Machine.valueOf? (machine : Machine) (name : String) : Option String :=
  machine.environment.lookup name

/-- What becomes of the records of a program's doings. -/
inductive Logging where
  /-- Warnings are printed as they are. -/
  | bare
  /-- Warnings are printed with their level and their source, other records only on demand. -/
  | labelled (isVerbose : Bool)
  deriving DecidableEq, Repr, Inhabited

/-- A part of the program that keeps records. -/
inductive RecordSource where
  /-- Loading extensions. -/
  | loading
  /-- Reading fragments. -/
  | reading
  /-- Running compilers. -/
  | compiling
  /-- Checking fragments. -/
  | running
  /-- Writing generated tests. -/
  | writing
  deriving DecidableEq, Repr

/-- The word for a source of records. -/
def RecordSource.name : RecordSource → String
  | .loading => "nctest"
  | .reading => "nctest.annotations.base"
  | .compiling => "nctest.compilers.invoker"
  | .running => "nctest.core.runner"
  | .writing => "nctest.synth.artifact"

/-- What a program finds and can change. -/
structure World where
  /-- The files. -/
  tree : Tree
  /-- The dialects that are known. -/
  registry : Registry
  /-- Whether the extensions have been loaded. -/
  isExtended : Bool
  /-- What was printed. -/
  console : Console
  /-- What becomes of records. -/
  logging : Logging

/-- A step of a program: it looks at a machine, changes a world and may fail. -/
abbrev Action := ReaderT Machine (ExceptT Failure (StateM World))

namespace Action

/-- Run an action. -/
def perform {α : Type} (action : Action α) (machine : Machine) (world : World) :
    Except Failure α × World :=
  ((action machine).run).run world

/-- Where things are looked up. -/
def surroundings : Action Surroundings := do
  return ⟨(← get).tree, (← read).here⟩

/-- Change the files only. -/
def withTree {α : Type} (step : Place → ExceptT Failure (StateM Tree) α) : Action α := do
  let world ← get
  let (outcome, tree) := ((step (← read).here).run).run world.tree
  set { world with tree := tree }
  match outcome with
  | .ok value => return value
  | .error failure => throw failure

/-- Change the files only, by a step that the file system may refuse. -/
def file {α : Type} (step : Place → Filing α) : Action α :=
  withTree fun here => do
    match ← (step here).run with
    | .ok value => return value
    | .error trouble => throw (.ofTrouble trouble)

/-- Print in a way that is not possible if a window is to be named. -/
def printBy (way : Console → Option Console) : Action Unit := do
  let world ← get
  match way world.console with
  | some console => set { world with console := console }
  | none => throw (.absent "'NoneType' object has no attribute 'set_title'")

/-- Print a line. -/
def print (line : String) : Action Unit := printBy (·.print? line)

/-- Print some lines up to the first one that cannot be shown. -/
def printAll : List (Except Failure String) → Action Unit
  | [] => return
  | line :: rest => do
    print (← line)
    printAll rest

/-- Print a line on the error stream. -/
def printError (line : String) : Action Unit := printBy (·.printError? line)

/-- Keep a record of something doubtful. -/
def warn (source : RecordSource) (message : String) : Action Unit :=
  modify fun world => { world with
    console := match world.logging with
      | .bare => world.console.printRecord message
      | .labelled _ => world.console.printPlain s!"WARNING {source.name}: {message}" }

/-- Keep a record of something ordinary. -/
def note (source : RecordSource) (message : String) : Action Unit :=
  modify fun world => { world with
    console := match world.logging with
      | .labelled true => world.console.printPlain s!"DEBUG {source.name}: {message}"
      | _ => world.console }

/-! ## Extensions -/

/-- Add dialects to those that are known. -/
def registerAll : List Dialect → Action Unit
  | [] => return
  | dialect :: rest => do
    let world ← get
    let registry ← world.registry.register dialect
    set { world with registry := registry }
    registerAll rest

/-- Load the extensions of some names. -/
def loadExtensions : List String → Action Unit
  | [] => return
  | name :: rest => do
    note .loading s!"loading plugin module {name}"
    registerAll (← Extension.find (← read).extensions name)
    loadExtensions rest

/-- Make the dialects known: those that need no extension and those of the extensions that the
environment names. This is done once; after a failure it can be tried again. -/
def bootstrap : Action Unit := do
  if (← get).isExtended then return
  modify fun world => { world with registry := world.registry.withBuiltin }
  let names := ((← read).valueOf? Extension.variableName).getD ""
  loadExtensions (Text.commaList names)
  modify fun world => { world with isExtended := true }

/-! ## Fragments -/

/-- Read the fragment at a path. -/
def loadFragment (path : Path) : Action Fragment := do
  let world ← get
  let fragment ← Fragment.load world.registry world.tree (← read).here path
  note .reading
    s!"parsed {path} with {fragment.dialect} dialect: {fragment.cases.length} case(s)"
  return fragment

end Action

end NegativeCompile
