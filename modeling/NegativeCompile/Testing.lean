import NegativeCompile.Settings.Loading
import NegativeCompile.Testing.Call
import NegativeCompile.Testing.Collection
import NegativeCompile.Testing.Keyword

/-! # Test sessions

A whole run of a test runner on the fragments of a configuration: which items it collects, how each
of them ends, and the number that the runner ends with. -/

namespace NegativeCompile.Testing

open Files Text

/-! ## Sessions -/

/-- What is known after a run of a test runner. -/
structure TestSession where
  /-- The items that were collected. -/
  items : List TestItem
  /-- The items that were checked, with their outcomes. -/
  reports : List (TestItem × TestOutcome)
  /-- What was wrong with the call. -/
  problems : List String
  /-- The number that the runner ends with. -/
  code : Int
  deriving DecidableEq, Repr, Inhabited

namespace TestSession

/-- A session that ended because of the call. -/
def refused (items : List TestItem) (problems : List String) : TestSession :=
  ⟨items, [], problems, 4⟩

/-- A session that ended by accident, after some items were collected. -/
def broken (items : List TestItem) : TestSession := ⟨items, [], [], 3⟩

/-- The lines that report what was wrong with the call. -/
def errorLines (session : TestSession) : List String :=
  let rows := session.problems.flatMap fun problem => lines s!"ERROR: {problem}".toList
  (rows.map String.ofList).filter (·.startsWith "ERROR")

end TestSession

/-! ## Checking -/

/-- What runs found out about files so far. -/
abbrev KnownResults := List (Path × FragmentResult)

/-- Check an item, its file being run unless what that found out is known. -/
def checkItem (settings : Settings) (known : KnownResults) (item : TestItem) :
    Action (TestOutcome × KnownResults) := do
  match item.kind with
  | .annotations problem => return (.failed s!"malformed annotations: {problem}", known)
  | .testCase name =>
    match known.lookup item.path with
    | some result => return (.ofFragment result name, known)
    | none =>
      match ← observing (verify settings item.path) with
      | .ok result => return (.ofFragment result name, (item.path, result) :: known)
      | .error failure => return (.failed failure.message, known)

/-- Check some items, each file being run once; `limit` is the number of failures that end the
session. -/
def checkItems (settings : Settings) (known : KnownResults) (limit : Option Nat) :
    List TestItem → Action (List (TestItem × TestOutcome))
  | [] => return []
  | item :: rest => do
    if limit = some 0 then return []
    let (outcome, learned) ← checkItem settings known item
    let left := if outcome.isFailure then limit.map (· - 1) else limit
    return (item, outcome) :: (← checkItems settings learned left rest)

/-- The names that an expression for items is about: those of the item, of its file and of the
directories above that. -/
def namesOf (base : Path) (item : TestItem) : List String := item.name :: item.fileNames base

/-- The session that goes on from what was collected. -/
def sessionOf (settings : Settings) (call : TestCall) (base : Path) (collected : Collected) :
    Action TestSession := do
  let items := collected.items
  let words := String.ofList (trimLeft call.keyword.toList)
  match Keyword.read words with
  | .error (.malformed column reason) =>
    return .refused items
      [s!"Wrong expression passed to '-k': {words}: at column {column}: {reason}"]
  | .error .senseless => return .broken items
  | .ok keyword =>
    match items.filterM fun item => keyword.holds? (namesOf base item) with
    | none => return .refused items ["Keyword expressions do not support call parameters."]
    | some chosen =>
      if 0 < collected.failures then return ⟨items, [], [], 2⟩
      let reports ←
        if call.onlyCollects then pure [] else checkItems settings [] call.failureLimit chosen
      let code := if reports.any (·.2.isFailure) then 1 else if chosen.isEmpty then 5 else 0
      return ⟨items, reports, [], code⟩

/-- Collect items in a directory and check them. -/
def collectAndCheck (settings : Settings) (call : TestCall) (base : Path) :
    Action TestSession := do
  let place ← Action.surroundings
  let words := if call.targets.isEmpty then ["."] else call.targets
  let targets := Target.distinctFrom [] (words.map (Target.ofWord base))
  match targets.findSome? (Target.problem? place) with
  | some problem => return .refused [] [problem.message]
  | none =>
    let (collected, problems) ← collectTargets settings targets
    if !problems.isEmpty then return .refused [] (problems.map (·.message))
    sessionOf settings call base collected

/-! ## Runs -/

/-- The settings that a call asks for. -/
def settingsOf (base : Path) (file : String) : Action Settings := do
  Action.bootstrap
  let name := Path.ofString file
  Action.loadSettings (if name.isAbsolute then file else (base.join name).toString)

/-- What remains of a session without settings: nothing is collected. -/
def withoutSettings (base : Path) (call : TestCall) : Action TestSession := do
  let place ← Action.surroundings
  let targets := call.targets.map (Target.ofWord base)
  match targets.findSome? (Target.problem? place) with
  | some problem => return .refused [] [problem.message]
  | none =>
    let files := targets.filter fun target =>
      !leadsToDirectory place.tree place.here target.path.toString
    if files.isEmpty then return ⟨[], [], [], 5⟩
    return .refused [] (files.map fun target => (TargetProblem.unmatched target.shown).message)

/-- Run a test runner with some words in the current directory. -/
def runTests (words : List String) : Action TestSession := do
  let place ← Action.surroundings
  let base := Path.ofParts place.here
  match TestCall.ofWords place base words with
  | .error problem => return .refused [] [problem.message]
  | .ok call =>
    match call.configurationFile? with
    | none => withoutSettings base call
    | some file =>
      match ← observing (settingsOf base file) with
      | .ok settings => collectAndCheck settings call base
      | .error (.configuration message) => return .refused [] [message]
      | .error _ => return .broken []

end NegativeCompile.Testing
