import NegativeCompile.Files.Glob
import NegativeCompile.Testing.Item

/-! # Collecting test items

Where a test runner finds items: in the files that it is given, or that it comes across in the
directories that it is given. Only the fragments of a configuration count, if their names end as
the configuration says. -/

namespace NegativeCompile.Testing

open Files Text

/-! ## Targets -/

/-- What a test runner is to look at: a path, and the names of items in it. -/
structure Target where
  /-- The words for it. -/
  word : String
  /-- The absolute path. -/
  path : Path
  /-- The names of items. -/
  names : List String
  deriving DecidableEq, Repr, Inhabited

namespace Target

/-- The pieces of a text between double colons; `piece` holds the current piece, last character
first. -/
def colonPieces (piece : List Char) : List Char → List String
  | [] => [String.ofList piece.reverse]
  | ':' :: ':' :: rest => String.ofList piece.reverse :: colonPieces [] rest
  | c :: rest => colonPieces (c :: piece) rest

/-- The target of a word, seen from a directory. Double colons after a bracket belong to a name. -/
def ofWord (here : Path) (word : String) : Target :=
  let before := word.toList.takeWhile (· ≠ '[')
  let after := String.ofList (word.toList.dropWhile (· ≠ '['))
  match colonPieces [] before with
  | [] => ⟨word, here, []⟩
  | [file] => ⟨word, (here.append (file ++ after)).normalize, []⟩
  | file :: names =>
    let last := (names.getLast?.getD "") ++ after
    ⟨word, (here.append file).normalize, names.dropLast ++ [last]⟩

/-- Whether all that a target looks at is looked at for another one. -/
def isWithin (target other : Target) : Bool :=
  if other.path = target.path then other.names.isPrefixOf target.names
  else other.names.isEmpty && (target.path.below? other.path).isSome

/-- Leave out targets that others include, and repeated ones; `kept` holds the targets before. -/
def distinctFrom (kept : List Target) : List Target → List Target
  | [] => []
  | target :: rest =>
    let isIncluded := kept.any target.isWithin ||
      rest.any fun other => target.isWithin other && !other.isWithin target
    if isIncluded then distinctFrom kept rest
    else target :: distinctFrom (kept ++ [target]) rest

/-- The name of a target in problems. -/
def shown (target : Target) : String := "::".intercalate (target.path.toString :: target.names)

end Target

/-! ## Files -/

/-- The names of directories that are passed over, as patterns. -/
def passedOver : List String :=
  ["*.egg", ".*", "_darcs", "build", "CVS", "dist", "node_modules", "venv", "\x7barch\x7d",
    "__pycache__"]

/-- The files below a directory in the order of their names, without directories that are passed
over; `fuel` bounds the depth. -/
def filesBelow (place : Surroundings) : Nat → Path → List Path
  | 0, _ => []
  | fuel + 1, directory =>
    let names := (namesIn place.tree place.here directory false).mergeSort (· ≤ ·)
    names.flatMap fun name =>
      let path := directory.append name
      if leadsToDirectory place.tree place.here path.toString then
        if passedOver.any (Wildcard.matchesName · name) then [] else filesBelow place fuel path
      else if leadsToFile place.tree place.here path.toString then [path]
      else []

/-- Whether a file holds a fragment of a configuration. -/
def isListed (place : Surroundings) (settings : Settings) (path : Path) : Bool :=
  settings.suffixes.contains path.suffix &&
    match place.resolve path with
    | .ok resolved => settings.fragments.contains resolved
    | .error _ => false

/-! ## Items -/

/-- What was collected: items, and the number of files that could not be looked into. -/
structure Collected where
  /-- The items. -/
  items : List TestItem
  /-- The number of files that could not be looked into. -/
  failures : Nat
  deriving DecidableEq, Repr, Inhabited

/-- Collect the items of a file that has to be listed. -/
def collectFile (settings : Settings) (path : Path) : Action Collected := do
  if !isListed (← Action.surroundings) settings path then return ⟨[], 0⟩
  try return ⟨← TestItem.ofFile path, 0⟩
  catch _ => return ⟨[], 1⟩

/-- Collect the items of some files. -/
def collectFiles (settings : Settings) : List Path → Action Collected
  | [] => return ⟨[], 0⟩
  | path :: rest => do
    let first ← collectFile settings path
    let others ← collectFiles settings rest
    return ⟨first.items ++ others.items, first.failures + others.failures⟩

/-- Whether an item has a name; what follows a bracket may be left out of it. -/
def isNamed (item : TestItem) (name : String) : Bool :=
  item.name == name || String.ofList (item.name.toList.takeWhile (· ≠ '[')) == name

/-- Why a target cannot be collected. -/
inductive TargetProblem where
  /-- Nothing is there. -/
  | missing (word : String)
  /-- A directory has no items of its own. -/
  | namedDirectory (word : String)
  /-- There are no such items. -/
  | unmatched (shown : String)
  deriving DecidableEq, Repr

/-- The wording of a problem with a target. -/
def TargetProblem.message : TargetProblem → String
  | .missing word => s!"file or directory not found: {word}"
  | .namedDirectory word => s!"directory argument cannot contain :: selection parts: {word}"
  | .unmatched shown => s!"not found: {shown}"

/-- Why nothing can be looked for at a target, if so. -/
def Target.problem? (place : Surroundings) (target : Target) : Option TargetProblem :=
  match status place.tree place.here target.path.toString with
  | .error _ => some (.missing target.word)
  | .ok entry =>
    if entry.isDirectory && !target.names.isEmpty then some (.namedDirectory target.word)
    else none

/-- Collect the items of a target. -/
def Target.collect (settings : Settings) (target : Target) :
    Action (Except TargetProblem Collected) := do
  let place ← Action.surroundings
  if leadsToDirectory place.tree place.here target.path.toString then
    return .ok (← collectFiles settings (filesBelow place (depthLimit place.tree) target.path))
  let found ← collectFile settings target.path
  match target.names with
  | [] =>
    if isListed place settings target.path then return .ok found
    return .error (.unmatched target.shown)
  | [name] =>
    let items := found.items.filter (isNamed · name)
    if items.isEmpty then return .error (.unmatched target.shown)
    return .ok { found with items := items }
  | _ => return .error (.unmatched target.shown)

/-- Collect the items of some targets, and the problems with others. -/
def collectTargets (settings : Settings) :
    List Target → Action (Collected × List TargetProblem)
  | [] => return (⟨[], 0⟩, [])
  | target :: rest => do
    let first ← target.collect settings
    let (others, problems) ← collectTargets settings rest
    match first with
    | .ok found =>
      return (⟨found.items ++ others.items, found.failures + others.failures⟩, problems)
    | .error problem => return (others, problem :: problems)

end NegativeCompile.Testing
