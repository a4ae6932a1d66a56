import NegativeCompile.Running

/-! # Test items

What a test runner sees of a fragment: an item for each of its cases, or one item if its
annotations cannot be read. -/

namespace NegativeCompile.Testing

open Files

/-! ## Items -/

/-- What an item checks. -/
inductive ItemKind where
  /-- That a case fails to compile as expected. -/
  | testCase (name : String)
  /-- That annotations can be read, which is known to be wrong. -/
  | annotations (problem : String)
  deriving DecidableEq, Repr, Inhabited

/-- One thing that a test runner checks. -/
structure TestItem where
  /-- The file with the fragment. -/
  path : Path
  /-- What it checks. -/
  kind : ItemKind
  deriving DecidableEq, Repr, Inhabited

namespace TestItem

/-- The name of an item within its file. -/
def name (item : TestItem) : String :=
  match item.kind with
  | .testCase name => name
  | .annotations _ => "annotations"

/-- How an item is shown. -/
def label (item : TestItem) : String :=
  match item.kind with
  | .testCase name => s!"no-compile: {name}"
  | .annotations _ => "no-compile annotations"

/-- The names that lead to an item's file from a directory; those of a file outside it lead from
the root. -/
def fileNames (item : TestItem) (base : Path) : List String :=
  match item.path.below? base with
  | some path => path.parts
  | none => item.path.parts

/-- What identifies an item, its file being named from a directory. -/
def identifier (item : TestItem) (base : Path) : String :=
  let file := "/".intercalate (item.fileNames base)
  s!"{file}::{item.name}"

/-- The items of a fragment. -/
def ofFragment (path : Path) (fragment : Fragment) : List TestItem :=
  fragment.cases.map fun testCase => ⟨path, .testCase testCase.name⟩

/-- The items of the fragment in a file. -/
def ofFile (path : Path) : Action (List TestItem) := do
  try
    return ofFragment path (← Action.loadFragment path)
  catch failure =>
    match failure with
    | .annotations _ _ _ => return [⟨path, .annotations failure.message⟩]
    | _ => throw failure

end TestItem

/-! ## Outcomes -/

/-- What a test runner says about an item. -/
inductive TestOutcome where
  /-- It is as expected. -/
  | passed
  /-- It is not as expected. -/
  | failed (detail : String)
  /-- It was not checked. -/
  | skipped (reason : String)
  deriving DecidableEq, Repr, Inhabited

namespace TestOutcome

/-- The word for an outcome. -/
def name : TestOutcome → String
  | .passed => "passed"
  | .failed _ => "failed"
  | .skipped _ => "skipped"

/-- What is said besides the word. -/
def detail? : TestOutcome → Option String
  | .passed => none
  | .failed detail => some detail
  | .skipped reason => some s!"Skipped: {reason}"

/-- Whether an item failed. -/
def isFailure : TestOutcome → Bool
  | .failed _ => true
  | _ => false

/-- The outcome of an item whose case has a result. -/
def ofCase (result : CaseResult) : TestOutcome :=
  if result.skipped then .skipped "disabled no-compile case"
  else if result.passed then .passed
  else .failed result.describe

/-- The outcome of the item of a case, given what a run found out about its fragment. -/
def ofFragment (result : FragmentResult) (name : String) : TestOutcome :=
  match result.error with
  | some problem => .failed problem
  | none =>
    match result.cases.reverse.find? (·.testCase.name = name) with
    | some found => .ofCase found
    | none => .failed name

end TestOutcome

/-- What a run finds out about the fragment in a file. -/
def verify (settings : Settings) (path : Path) : Action FragmentResult := do
  let resolved ← (← Action.surroundings).resolve path
  let options : RunOptions := { writeArtifacts := some false }
  let (result, _) ←
    run settings options [resolved] (fun _ _ _ _ => return ()) ()
  return result.fragments.headD (.ofError resolved "" "")

end NegativeCompile.Testing
