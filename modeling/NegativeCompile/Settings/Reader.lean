import NegativeCompile.Files.Glob
import NegativeCompile.Files.Path
import NegativeCompile.Schema
import NegativeCompile.Settings
import NegativeCompile.Text.ShellWords
import NegativeCompile.World

/-! # Reading settings

The settings that a decoded configuration gives, with all paths resolved and all patterns replaced
by the files that match them. -/

namespace NegativeCompile.Settings

open Schema

/-! ## The schema of configurations

What a configuration may hold. -/

/-- The schema of a text that is not empty. -/
def nonemptyText : Schema := .ofRules [.kind [.string], .nonemptyText]

/-- The schema of a list of texts. -/
def textList : Schema := listOf (ofKind .string)

/-- The schema of the compiler's part. -/
def compilerSchema : Schema :=
  closedRecord ["binary"]
    [("binary", nonemptyText),
      ("flags", .ofRules [.oneSchema [ofKind .string, textList]]),
      ("std", ofKinds [.string, .null]),
      ("include_dirs", textList),
      ("defines", textList),
      ("werror", ofKind .boolean),
      ("mode", .ofRules [.oneText (CompileMode.all.map (·.name))]),
      ("depfile", ofKind .boolean),
      ("timeout", .ofRules [.kind [.number], .above 0]),
      ("env", .ofRules [.kind [.object], .values (ofKinds [.string, .number, .boolean])]),
      ("workdir", ofKind .string)]

/-- The schema of the part about generated tests. -/
def artifactSchema : Schema :=
  closedRecord []
    [("enabled", ofKind .boolean),
      ("header", ofKind .string),
      ("suite", ofKinds [.string, .null])]

/-- The schema of a configuration. -/
def schema : Schema :=
  closedRecord ["compiler", "output_dir", "fragments"]
    [("compiler", compilerSchema),
      ("output_dir", nonemptyText),
      ("jobs", .ofRules [.kind [.integer], .least 1]),
      ("fragments", .ofRules [.kind [.array], .items nonemptyText, .nonemptyList]),
      ("suffixes", textList),
      ("artifact", artifactSchema)]

end NegativeCompile.Settings

namespace NegativeCompile

open Files Number Text

/-! ## Paths -/

/-- Where users are at home on a machine. -/
def Machine.homeDirectories (machine : Machine) : Homes :=
  ⟨(machine.valueOf? "HOME").or (machine.homes.lookup "root"), machine.homes⟩

/-- What paths in a configuration are resolved against: a machine, the files and a base
directory. -/
structure PathContext where
  /-- Where users are at home. -/
  homes : Homes
  /-- Where things are looked up. -/
  surroundings : Surroundings
  /-- The base directory. -/
  base : Path
  deriving Repr, Inhabited

namespace PathContext

/-- A path with its tilde replaced. -/
def expand (context : PathContext) (path : Path) : Except Failure Path :=
  match path.expandHome context.homes with
  | .ok expanded => .ok expanded
  | .error .unknown => .error (.runtime "Could not determine home directory.")
  | .error .nullCharacter => .error (.senseless "embedded null byte")

/-- The resolved path that a text stands for, seen from the base directory. -/
def resolve (context : PathContext) (text : String) : Except Failure Path := do
  let path ← context.expand (.ofString text)
  context.surroundings.resolve (context.base.join path)

/-- The resolved paths that texts stand for. -/
def resolveAll (context : PathContext) : List String → Except Failure (List Path)
  | [] => .ok []
  | text :: rest => do
    let path ← context.resolve text
    return path :: (← resolveAll context rest)

/-! ## Fragments -/

/-- Insert a path before the first one that does not come before it. -/
def insertPath (path : Path) : List Path → List Path
  | [] => [path]
  | first :: rest => if first.lt path then first :: insertPath path rest else path :: first :: rest

/-- Paths in order. -/
def sortPaths (paths : List Path) : List Path := paths.foldr insertPath []

/-- The resolved paths of some paths. -/
def resolvePaths (surroundings : Surroundings) : List Path → Except Failure (List Path)
  | [] => .ok []
  | path :: rest => do
    let resolved ← surroundings.resolve path
    return resolved :: (← resolvePaths surroundings rest)

/-- The resolved paths that match a pattern, in order. -/
def pathsMatching (context : PathContext) (pattern : String) : Except Failure (List Path) := do
  let root := context.base.append pattern
  if (root.parts.takeWhile (!Wildcard.hasMagic ·)).any hasNull then
    throw (.senseless "embedded null byte")
  let surroundings := context.surroundings
  let found ← resolvePaths surroundings (glob surroundings.tree surroundings.here root)
  if found.isEmpty then
    throw (.configuration s!"Fragment pattern '{pattern}' matched no files")
  return sortPaths found

/-- The resolved path of a file that has to be there. -/
def existingFile (context : PathContext) (name : String) : Except Failure Path := do
  let path ← context.resolve name
  match isFile context.surroundings.tree context.surroundings.here path.toString with
  | .ok true => return path
  | .ok false => throw (.configuration s!"Fragment '{name}' does not exist")
  | .error trouble => throw (.ofTrouble trouble)

/-- The paths that an entry of the list of fragments stands for. -/
def pathsOf (context : PathContext) (entry : String) : Except Failure (List Path) :=
  if Wildcard.hasMagic entry then context.pathsMatching entry
  else (context.existingFile entry).map fun path => [path]

/-- Some paths with others added that are not among them. -/
def addPaths (known : List Path) (more : List Path) : List Path :=
  more.foldl (fun paths path => if paths.contains path then paths else paths ++ [path]) known

/-- The paths that the entries of a list of fragments stand for, after those known already. -/
def expandFrom (context : PathContext) (known : List Path) :
    List String → Except Failure (List Path)
  | [] => .ok known
  | entry :: rest => do
    expandFrom context (addPaths known (← context.pathsOf entry)) rest

/-- The paths that a list of fragments stands for, each once, in order of appearance. -/
def expandFragments (context : PathContext) (entries : List String) :
    Except Failure (List Path) :=
  context.expandFrom [] entries

end PathContext

/-! ## Parts of a configuration -/

namespace Settings

/-- A mapping in a configuration. -/
abbrev Entries := List (Datum × Datum)

/-- The entry of a mapping, unless it is absent. -/
def entry? (name : String) (entries : Entries) : Option Datum := Datum.get? name entries

/-- The text of an entry, if it is one. -/
def textOf? (name : String) (entries : Entries) : Option String :=
  match entry? name entries with
  | some (.text value) => some value
  | _ => none

/-- The texts of an entry. -/
def textsOf (name : String) (entries : Entries) : List String :=
  match entry? name entries with
  | some (.list items) => items.map (·.plain)
  | _ => []

/-- The truth value of an entry, true if it is not given. -/
def flagOf (name : String) (entries : Entries) : Bool :=
  match entry? name entries with
  | some value => !value.isVoid
  | none => true

/-- The entries of a mapping within a mapping. -/
def entriesOf (name : String) (entries : Entries) : Entries :=
  match entry? name entries with
  | some (.mapping inner) => inner
  | _ => []

/-- The arguments that the first arguments of the compiler are given as: a line of shell words, or
a list. -/
def flagsOf (entries : Entries) : Except Failure (List String) :=
  match entry? "flags" entries with
  | some (.text line) =>
    match ShellWords.split line with
    | .ok words => .ok words
    | .error problem => .error (.senseless problem.message)
  | _ => .ok (textsOf "flags" entries)

/-- The compiler: a name to look up, or a path. -/
def binaryOf (context : PathContext) (name : String) : Except Failure String :=
  if name.contains '/' || name.contains '\\' then
    (context.resolve name).map (·.toString)
  else .ok name

/-- The number of seconds that a compiler may take. -/
def timeoutOf (entries : Entries) : Except Failure Seconds :=
  match entry? "timeout" entries with
  | some (.integer count) =>
    let value := Binary64.ofInt count
    if value.isFinite then .ok (.real value)
    else .error (.overflow "int too large to convert to float")
  | some (.real value) => .ok (.real value)
  | _ => .ok defaultTimeout

/-- Bind a variable: one that is bound already keeps its place. -/
def bindVariable (name value : String) : List (String × String) → List (String × String)
  | [] => [(name, value)]
  | first :: rest =>
    if first.1 = name then (name, value) :: rest else first :: bindVariable name value rest

/-- The failure of showing a number that is too long. -/
def longNumber : Failure := .senseless longNumberMessage

/-- The plain text of a datum. -/
def plainOf (datum : Datum) : Except Failure String :=
  match datum.plain? with
  | some text => .ok text
  | none => .error longNumber

/-- Bind the variables that entries stand for, after those bound already. -/
def bindVariables (bound : List (String × String)) :
    Entries → Except Failure (List (String × String))
  | [] => .ok bound
  | (name, value) :: rest => do
    bindVariables (bindVariable (← plainOf name) (← plainOf value) bound) rest

/-- The variables set for the compiler. -/
def variablesOf (entries : Entries) : Except Failure (List (String × String)) :=
  bindVariables [] (entriesOf "env" entries)

/-- How the compiler is run. -/
def compilerOf (context : PathContext) (entries : Entries) :
    Except Failure CompilerSettings := do
  let flags ← flagsOf entries
  let binary ← binaryOf context ((textOf? "binary" entries).getD "")
  let includeDirs ← context.resolveAll (textsOf "include_dirs" entries)
  let timeout ← timeoutOf entries
  let bound ← variablesOf entries
  let workdir ← match textOf? "workdir" entries with
    | some name => if name.isEmpty then pure none else (context.resolve name).map some
    | none => pure none
  return {
    binary := binary
    flags := flags
    std := textOf? "std" entries
    includeDirs := includeDirs
    defines := textsOf "defines" entries
    werror := flagOf "werror" entries
    mode := .ofName ((textOf? "mode" entries).getD CompileMode.syntaxOnly.name)
    depfile := flagOf "depfile" entries
    timeout := timeout
    env := bound
    workdir := workdir }

/-- How results are turned into tests. -/
def artifactOf (entries : Entries) : ArtifactSettings where
  enabled := flagOf "enabled" entries
  header := (textOf? "header" entries).getD defaultHeader
  suite := textOf? "suite" entries

/-- The number of compilers run at a time. -/
def jobsOf (entries : Entries) : Int :=
  match entry? "jobs" entries with
  | some (.integer count) => count
  | some (.real value) => value.truncate
  | _ => defaultJobs

/-- The endings of the names of fragments. -/
def suffixesOf (entries : Entries) : List String :=
  match textsOf "suffixes" entries with
  | [] => [defaultSuffix]
  | suffixes => suffixes

/-! ## Whole configurations -/

/-- The failure of a configuration that violates the schema. -/
def violated (violations : List Violation) : Failure :=
  match violations.mapM (·.describe?) with
  | none => longNumber
  | some described =>
    .configuration ("Configuration schema validation failed: " ++ "; ".intercalate described)

/-- Refuse a configuration that does not follow the schema. -/
def check (raw : KnottedDatum) : Except Failure Unit :=
  match schema.violations raw.knots raw.datum with
  | none => .error longNumber
  | some violations =>
    match Violation.sort violations with
    | .error problem => .error (.kind problem.message)
    | .ok [] => .ok ()
    | .ok sorted => .error (violated sorted)

/-- The settings that a decoded configuration gives; one that follows the schema has no knots. -/
def ofDatum (context : PathContext) (raw : KnottedDatum) : Except Failure Settings := do
  check raw
  let entries := match raw.datum with
    | .mapping entries => entries
    | _ => []
  let compiler ← compilerOf context (entriesOf "compiler" entries)
  let outputDir ← context.resolve ((textOf? "output_dir" entries).getD "")
  let fragments ← context.expandFragments (textsOf "fragments" entries)
  return {
    compiler := compiler
    outputDir := outputDir
    fragments := fragments
    baseDir := context.base
    jobs := jobsOf entries
    artifact := artifactOf (entriesOf "artifact" entries)
    suffixes := suffixesOf entries }

end Settings

namespace Action

/-- The settings that a decoded configuration gives, its paths being seen from a base directory. -/
def parseSettings (raw : KnottedDatum) (base : Path) : Action Settings := do
  Settings.ofDatum ⟨(← read).homeDirectories, ← surroundings, base⟩ raw

end Action

end NegativeCompile
