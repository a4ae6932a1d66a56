import NegativeCompile.Attribution
import NegativeCompile.Fragment
import NegativeCompile.Settings
import NegativeCompile.Text.Alphanumeric

/-! # Compile jobs

The compiler runs that a fragment needs: one for each enabled case that is compiled alone, or one
for the whole fragment. -/

namespace NegativeCompile

open Files Text

/-- One run of the compiler, on a whole fragment or on one of its cases. -/
structure Job where
  /-- The fragment. -/
  fragment : Fragment
  /-- The key of the fragment. -/
  key : String
  /-- Where files are written. -/
  outputDir : Path
  /-- The case, if it is compiled alone. -/
  testCase : Option TestCase
  deriving DecidableEq, Repr, Inhabited

namespace Job

/-- The name that the job's files have in common. -/
def stem (job : Job) : String :=
  match job.testCase with
  | some testCase => testCase.name
  | none => "fragment"

/-- The directory of the job's files. -/
def directory (job : Job) : Path := job.outputDir.append job.key

/-- The file that lists the headers read. -/
def depfile (job : Job) : Path := job.directory.append (job.stem ++ ".d")

/-- The object file. -/
def placeholder (job : Job) : Path := job.directory.append (job.stem ++ ".o")

/-- How a job is shown. -/
def label (job : Job) : String :=
  match job.testCase with
  | some testCase => s!"{job.fragment.name}:{testCase.name}"
  | none => job.fragment.name

/-- The arguments that define the symbol of the job's case. -/
def guardArguments (job : Job) : List String :=
  match job.testCase.bind (·.guard) with
  | some guard => if guard.isEmpty then [] else ["-D" ++ guard]
  | none => []

/-- The compiler and its arguments for a job. -/
def arguments (settings : CompilerSettings) (job : Job) : List String :=
  let std := match settings.std with
    | some name => if name.isEmpty then [] else ["-std=" ++ name]
    | none => []
  let mode := match settings.mode with
    | .syntaxOnly => ["-fsyntax-only"]
    | .compileOnly => ["-c", "-o", job.placeholder.toString]
  [settings.binary] ++ settings.flags ++ std ++
    settings.includeDirs.map (fun path => "-I" ++ path.toString) ++
    settings.defines.map ("-D" ++ ·) ++ job.guardArguments ++
    (if settings.werror then ["-Werror"] else []) ++ mode ++
    (if settings.depfile then ["-MD", "-MF", job.depfile.toString] else []) ++
    [job.fragment.path.toString]

/-- The jobs that a fragment needs. -/
def plan (fragment : Fragment) (key : String) (outputDir : Path) : List Job :=
  if fragment.enabledCases.isEmpty then []
  else if fragment.isGuarded then
    fragment.enabledCases.map fun testCase => ⟨fragment, key, outputDir, some testCase⟩
  else [⟨fragment, key, outputDir, none⟩]

/-- What tells a job from others: the key of its fragment and the name of its case. -/
def identity (job : Job) : String × Option String := (job.key, job.testCase.map (·.name))

end Job

/-- Whether a part of a path stands for a root only. -/
def isRootPart (part : String) : Bool := part = "/" || part = "\\" || part.endsWith ":\\"

/-- A character as it stands in a key. -/
def keyChar (c : Char) : Char :=
  if isAlphanumeric c || c = '.' || c = '_' || c = '-' then c else '_'

/-- The key of a path's parts: they are joined, and everything but letters, digits and a few marks
becomes an underscore. -/
def keyOfParts (parts : List String) : String :=
  let kept := parts.filter (!isRootPart ·)
  String.ofList (("__".intercalate kept).toList.map keyChar)

/-- The key of a path: that of its parts below a base directory, if it lies there. -/
def Surroundings.fragmentKey (surroundings : Surroundings) (path : Path) (base : Option Path) :
    Except Failure String := do
  match base with
  | none => return keyOfParts path.allParts
  | some directory =>
    let resolved ← surroundings.resolve path
    let root ← surroundings.resolve directory
    match resolved.below? root with
    | some below => return keyOfParts below.parts
    | none => return keyOfParts resolved.allParts

end NegativeCompile
