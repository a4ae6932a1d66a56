import NegativeCompile.Files.Access
import NegativeCompile.Fragment
import NegativeCompile.Text.Utf8

/-! # Dialects

The ways to annotate a fragment. A registry holds dialects with distinct names; the first one, by
priority and then by age, that detects its annotations in a fragment reads them. -/

namespace NegativeCompile

open Files Text

/-- A way to annotate a fragment. -/
structure Dialect where
  /-- The name. -/
  name : String
  /-- Dialects of higher priority are asked first. -/
  priority : Int
  /-- Whether a text is annotated in this way. -/
  detects : String → Except Failure Bool
  /-- The cases that a text at a path declares. -/
  parse : Path → String → Except Failure (List TestCase)

/-- Dialects with distinct names, the oldest first. -/
structure Registry where
  /-- The dialects in the order of their registration. -/
  dialects : List Dialect

namespace Registry

/-- The registry without dialects. -/
def empty : Registry := ⟨[]⟩

/-- Add a dialect whose name is not taken. -/
def register (registry : Registry) (dialect : Dialect) : Except Failure Registry :=
  if registry.dialects.any (·.name = dialect.name) then
    .error (.senseless s!"Annotation dialect '{dialect.name}' already registered")
  else .ok ⟨registry.dialects ++ [dialect]⟩

/-- The dialects in the order in which they are asked: by falling priority, then by age. -/
def ordered (registry : Registry) : List Dialect :=
  registry.dialects.mergeSort fun first second => second.priority ≤ first.priority

/-- The names of the dialects in the order in which they are asked. -/
def names (registry : Registry) : List String := registry.ordered.map (·.name)

/-- The dialect of a name. -/
def get (registry : Registry) (name : String) : Except Failure Dialect :=
  match registry.dialects.find? (·.name = name) with
  | some dialect => .ok dialect
  | none =>
    .error (.unknownKey s!"No annotation dialect registered with name {quotedString name}")

/-- The first of some dialects that detects a text. -/
def firstDetecting (text : String) : List Dialect → Except Failure (Option Dialect)
  | [] => .ok none
  | dialect :: rest => do
    if ← dialect.detects text then return some dialect else firstDetecting text rest

/-- The dialect that reads a text. -/
def select (registry : Registry) (text : String) : Except Failure Dialect := do
  match ← firstDetecting text registry.ordered with
  | some dialect => return dialect
  | none => throw (.notFound "No annotation dialect accepted the fragment")

end Registry

/-- Refuse cases that have the name of an earlier one; `seen` holds the earlier ones. -/
def checkNames (path : Path) (seen : List TestCase) : List TestCase → Except Failure Unit
  | [] => .ok ()
  | testCase :: rest =>
    match seen.find? (·.name = testCase.name) with
    | some earlier =>
      .error (.annotations path (some testCase.span.first.toNat)
        (s!"duplicate test case '{testCase.name}' " ++
          s!"(first defined at line {earlier.span.first})"))
    | none => checkNames path (testCase :: seen) rest

namespace Fragment

/-- The fragment of a text at a path. -/
def parse (registry : Registry) (path : Path) (text : String) : Except Failure Fragment := do
  let dialect ← registry.select text
  let cases ← dialect.parse path text
  checkNames path [] cases
  return ⟨path, text, dialect.name, cases⟩

/-- The text of the fragment at a path. -/
def readText (tree : Tree) (start : Place) (path : Path) : Except Failure String :=
  let refuse (message : String) : Failure :=
    .annotations path none s!"cannot read fragment: {message}"
  match readBytes tree start path.toString with
  | .error (.refusal refusal) => .error (refuse refusal.message)
  | .error trouble => .error (.ofTrouble trouble)
  | .ok bytes =>
    match decodeUtf8 bytes with
    | .error problem => .error (refuse problem.message)
    | .ok text => .ok (String.ofList (unifyNewlines text.toList))

/-- The fragment at a path. -/
def load (registry : Registry) (tree : Tree) (start : Place) (path : Path) :
    Except Failure Fragment := do
  parse registry path (← readText tree start path)

end Fragment

end NegativeCompile
